import TagIndex.Text.Pattern

namespace TagIndex.Text

open Bytes

theorem escape_cons (b : UInt8) (rest : Bytes) :
    escape (b :: rest) = (if isDelimiter b then [backslash, b] else [b]) ++ escape rest := by
  simp [escape]

theorem isDelimiter_iff (b : UInt8) : isDelimiter b ↔ b = slash ∨ b = backslash := by
  simp [isDelimiter]

theorem unescape_cons_of_ne {b : UInt8} (h : b ≠ backslash) (rest : Bytes) :
    unescape (b :: rest) = b :: unescape rest := by
  cases rest <;> simp [unescape, h]

/-- Escaping is undone exactly. -/
theorem unescape_escape (line : Bytes) : unescape (escape line) = line := by
  induction line with
  | nil => rfl
  | cons b rest ih =>
    rw [escape_cons]
    by_cases h : isDelimiter b
    · simp [h, unescape, ih]
    · have hb : b ≠ backslash := fun heq => h ((isDelimiter_iff b).mpr (.inr heq))
      rw [if_neg h, List.singleton_append, unescape_cons_of_ne hb, ih]

theorem mem_of_mem_escape {b : UInt8} {line : Bytes} (h : b ∈ escape line) (hb : b ≠ backslash) :
    b ∈ line := by
  obtain ⟨c, hc, hmem⟩ := List.mem_flatMap.mp h
  split at hmem <;> simp_all

/-- Bytes spelled with backslashes: each one stands alone or behind a backslash, as it may. -/
inductive Spelled (alone paired : UInt8 → Prop) : Bytes → Prop
  | nil : Spelled alone paired []
  | alone {b : UInt8} {rest : Bytes} (hb : alone b) (h : Spelled alone paired rest) :
      Spelled alone paired (b :: rest)
  | pair {b : UInt8} {rest : Bytes} (hb : paired b) (h : Spelled alone paired rest) :
      Spelled alone paired (backslash :: b :: rest)

/-- Where neither the closing byte nor a backslash may stand alone, only one closing byte can be the
end of what is spelled. -/
theorem Spelled.append_close_inj {alone paired : UInt8 → Prop} {close : UInt8}
    (hclose : ¬alone close) (hback : ¬alone backslash) (hne : close ≠ backslash)
    {a b moreA moreB : Bytes} (ha : Spelled alone paired a) (hb : Spelled alone paired b)
    (h : a ++ close :: moreA = b ++ close :: moreB) : a = b ∧ moreA = moreB := by
  induction ha generalizing b with
  | nil =>
    cases hb with
    | nil => exact ⟨rfl, (List.cons.inj h).2⟩
    | alone hc _ => exact absurd ((List.cons.inj h).1 ▸ hc) hclose
    | pair _ _ => exact absurd (List.cons.inj h).1 hne
  | @alone c rest hc _ ih =>
    cases hb with
    | nil => exact absurd ((List.cons.inj h).1 ▸ hc) hclose
    | alone _ hrest =>
      obtain ⟨rfl, htail⟩ := List.cons.inj h
      obtain ⟨rfl, hmore⟩ := ih hrest htail
      exact ⟨rfl, hmore⟩
    | pair _ _ => exact absurd ((List.cons.inj h).1 ▸ hc) hback
  | @pair c rest _ _ ih =>
    cases hb with
    | nil => exact absurd (List.cons.inj h).1.symm hne
    | alone hd _ => exact absurd ((List.cons.inj h).1 ▸ hd) hback
    | pair _ hrest =>
      obtain ⟨rfl, htail⟩ := List.cons.inj (List.cons.inj h).2
      obtain ⟨rfl, hmore⟩ := ih hrest htail
      exact ⟨rfl, hmore⟩

/-- The grammar of escaped lines: `/` and `\` stand behind a backslash, all other bytes alone. -/
def Escaped : Bytes → Prop :=
  Spelled (fun b => b ≠ slash ∧ b ≠ backslash) fun b => b = slash ∨ b = backslash

theorem escaped_escape (line : Bytes) : Escaped (escape line) := by
  induction line with
  | nil => exact .nil
  | cons b rest ih =>
    rw [escape_cons]
    by_cases h : isDelimiter b
    · rw [if_pos h]
      exact .pair ((isDelimiter_iff b).mp h) ih
    · have hb : b ≠ slash ∧ b ≠ backslash := by simpa [isDelimiter_iff] using h
      rw [if_neg h]
      exact .alone hb ih

theorem Escaped.escape_unescape {pattern : Bytes} (h : Escaped pattern) :
    escape (unescape pattern) = pattern := by
  induction h with
  | nil => rfl
  | @alone b rest hb _ ih =>
    have hplain : ¬isDelimiter b := by simpa [isDelimiter_iff] using hb
    rw [unescape_cons_of_ne hb.2, escape_cons, if_neg hplain, ih]
    rfl
  | @pair b rest hb _ ih =>
    have hdelimiter : isDelimiter b := (isDelimiter_iff b).mpr hb
    have hpair : unescape (backslash :: b :: rest) = b :: unescape rest := by
      simp [unescape, hdelimiter]
    rw [hpair, escape_cons, if_pos hdelimiter, ih]
    rfl

/-- Bytes in which every slash stands behind a backslash of its own. A backslash always takes the
next byte with it. -/
inductive Paired : Bytes → Prop
  | nil : Paired []
  | plain {b : UInt8} {rest : Bytes} (hslash : b ≠ slash) (hback : b ≠ backslash)
      (h : Paired rest) : Paired (b :: rest)
  | pair {b : UInt8} {rest : Bytes} (h : Paired rest) : Paired (backslash :: b :: rest)

theorem Paired.append {a b : Bytes} (ha : Paired a) (hb : Paired b) : Paired (a ++ b) := by
  induction ha with
  | nil => exact hb
  | plain hslash hback _ ih => exact .plain hslash hback ih
  | pair _ ih => exact .pair ih

theorem Escaped.paired {pattern : Bytes} (h : Escaped pattern) : Paired pattern := by
  induction h with
  | nil => exact .nil
  | alone hb _ ih => exact .plain hb.1 hb.2 ih
  | pair _ _ ih => exact .pair ih

theorem paired_escape (line : Bytes) : Paired (escape line) := (escaped_escape line).paired

/-- Cuts a search command at its closing delimiter, the first slash outside a backslash pair. -/
def search? : Bytes → Option (Bytes × Bytes)
  | [] => none
  | [b] => if b = slash then some ([], []) else none
  | b :: c :: rest =>
    if b = slash then some ([], c :: rest)
    else if b = backslash then (search? rest).map fun cut => (b :: c :: cut.1, cut.2)
    else (search? (c :: rest)).map fun cut => (b :: cut.1, cut.2)

theorem search?_slash (rest : Bytes) : search? (slash :: rest) = some ([], rest) := by
  cases rest <;> simp [search?]

theorem search?_plain {b : UInt8} (hslash : b ≠ slash) (hback : b ≠ backslash) (rest : Bytes) :
    search? (b :: rest) = (search? rest).map fun cut => (b :: cut.1, cut.2) := by
  cases rest <;> simp [search?, hslash, hback]

theorem search?_pair (b : UInt8) (rest : Bytes) :
    search? (backslash :: b :: rest) =
      (search? rest).map fun cut => (backslash :: b :: cut.1, cut.2) := by
  simp [search?, backslash, slash]

/-- The cut is made exactly at a slash that no unpaired slash precedes. -/
theorem search?_eq_some_iff {input body rest : Bytes} :
    search? input = some (body, rest) ↔ input = body ++ slash :: rest ∧ Paired body := by
  constructor
  · intro h
    fun_induction search? input generalizing body with
    | case1 => cases h
    | case2 =>
      obtain ⟨rfl, rfl⟩ := Prod.mk.inj (Option.some.inj h)
      exact ⟨rfl, .nil⟩
    | case3 => cases h
    | case4 =>
      obtain ⟨rfl, rfl⟩ := Prod.mk.inj (Option.some.inj h)
      exact ⟨rfl, .nil⟩
    | case5 c tail _ ih =>
      obtain ⟨⟨inner, _⟩, hcut, heq⟩ := Option.map_eq_some_iff.mp h
      obtain ⟨rfl, rfl⟩ := Prod.mk.inj heq
      obtain ⟨rfl, hpaired⟩ := ih hcut
      exact ⟨rfl, .pair hpaired⟩
    | case6 b c tail hslash hback ih =>
      obtain ⟨⟨inner, _⟩, hcut, heq⟩ := Option.map_eq_some_iff.mp h
      obtain ⟨rfl, rfl⟩ := Prod.mk.inj heq
      obtain ⟨hinput, hpaired⟩ := ih hcut
      exact ⟨by rw [hinput]; rfl, .plain hslash hback hpaired⟩
  · intro h
    obtain ⟨rfl, h⟩ := h
    induction h with
    | nil => exact search?_slash rest
    | plain hslash hback h ih => rw [List.cons_append, search?_plain hslash hback, ih]; rfl
    | pair h ih => rw [List.cons_append, List.cons_append, search?_pair, ih]; rfl

theorem length_escape (line : Bytes) :
    (escape line).length = line.length + line.count slash + line.count backslash := by
  induction line with
  | nil => rfl
  | cons b rest ih =>
    have hpiece : (if isDelimiter b then [backslash, b] else [b]).length =
        1 + (if b == slash then 1 else 0) + if b == backslash then 1 else 0 := by
      by_cases hslash : b = slash
      · rw [hslash]
        rfl
      · by_cases hback : b = backslash
        · rw [hback]
          rfl
        · simp [isDelimiter, hslash, hback]
    rw [escape_cons, List.length_append, hpiece, ih, List.length_cons, List.count_cons,
      List.count_cons]
    omega

/-- Escaping is a bijection from lines to the escaped lines, with `unescape` for its inverse. It
costs a byte for each delimiter, and it works on the two parts of a line apart. -/
theorem escape_onto_escaped :
    (∀ line, unescape (escape line) = line) ∧
    (∀ line, (escape line).length = line.length + line.count slash + line.count backslash) ∧
    (∀ pattern, escape (unescape pattern) = pattern ↔ Escaped pattern) ∧
    (∀ line, Escaped (escape line)) ∧
    Function.Injective escape ∧
    ∀ front back, escape (front ++ back) = escape front ++ escape back := by
  have hgrammar (pattern : Bytes) : escape (unescape pattern) = pattern ↔ Escaped pattern := by
    constructor
    · intro h
      rw [← h]
      exact escaped_escape _
    · intro h
      exact h.escape_unescape
  have hinjective : Function.Injective escape := Function.LeftInverse.injective unescape_escape
  exact ⟨unescape_escape, length_escape, hgrammar, escaped_escape, hinjective, escape_append⟩

end TagIndex.Text
