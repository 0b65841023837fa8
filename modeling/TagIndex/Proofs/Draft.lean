import Mathlib.Tactic.Common
import TagIndex.Tag

namespace TagIndex

/-- The draft that spells out a tag. -/
def Tag.draft (tag : Tag) : Draft :=
  { name := tag.name
    path := tag.path
    pattern := tag.pattern
    kind := tag.kind.letter
    label := tag.enclosure.map (·.label)
    scope := tag.enclosure.map (·.path) }

theorem Kind.ofLetter?_eq_some_iff {text : String} {kind : Kind} :
    Kind.ofLetter? text = some kind ↔ text = kind.letter := by
  constructor
  · intro h
    have hfound := List.find?_some h
    exact (of_decide_eq_true hfound).symm
  · intro heq
    subst heq
    exact Kind.ofLetter?_letter kind

theorem Enclosure.ofParts_eq_ok_iff {label scope : Option Bytes} {enclosure : Option Enclosure} :
    Enclosure.ofParts label scope = .ok enclosure ↔
      label = enclosure.map (·.label) ∧ scope = enclosure.map (·.path) := by
  rcases enclosure with _ | ⟨innerLabel, innerPath⟩ <;> cases label <;> cases scope <;>
    simp [Enclosure.ofParts]

theorem Enclosure.ofParts_isOk_iff {label scope : Option Bytes} :
    (∃ enclosure, Enclosure.ofParts label scope = .ok enclosure) ↔
      label.isSome = scope.isSome := by
  cases label <;> cases scope <;> simp [Enclosure.ofParts]

namespace Draft

theorem check_eq_ok_iff {draft : Draft} {tag : Tag} :
    draft.check = .ok tag ↔ draft = tag.draft := by
  rcases draft with ⟨name, path, pattern, kind, label, scope⟩
  rcases tag with ⟨tagName, tagPath, tagPattern, tagKind, enclosure, hname, hpattern⟩
  simp only [check, Tag.draft, Draft.mk.injEq]
  constructor
  · intro h
    split_ifs at h
    split at h
    · cases h
    · rename_i found hfound
      split at h
      · cases h
      · rename_i parts hparts
        simp only [Except.ok.injEq, Tag.mk.injEq] at h
        obtain ⟨rfl, rfl, rfl, rfl, rfl⟩ := h
        exact ⟨rfl, rfl, rfl, Kind.ofLetter?_eq_some_iff.mp hfound,
          Enclosure.ofParts_eq_ok_iff.mp hparts⟩
  · intro h
    obtain ⟨rfl, rfl, rfl, rfl, hlabel, hscope⟩ := h
    have hparts := Enclosure.ofParts_eq_ok_iff.mpr ⟨hlabel, hscope⟩
    simp only [hname, hpattern, dif_neg, not_false_eq_true, Kind.ofLetter?_letter, hparts]

@[simp] theorem check_draft (tag : Tag) : tag.draft.check = .ok tag := check_eq_ok_iff.mpr rfl

/-- What a draft needs to become a tag. -/
theorem check_isOk_iff {draft : Draft} :
    (∃ tag, draft.check = .ok tag) ↔
      draft.name ≠ [] ∧ draft.pattern ≠ [] ∧ (∃ kind : Kind, draft.kind = kind.letter) ∧
        draft.label.isSome = draft.scope.isSome := by
  constructor
  · intro h
    obtain ⟨tag, h⟩ := h
    obtain rfl := check_eq_ok_iff.mp h
    refine ⟨tag.name_ne_nil, tag.pattern_ne_nil, ⟨tag.kind, rfl⟩, ?_⟩
    simp [Tag.draft]
  · intro h
    obtain ⟨hname, hpattern, ⟨kind, hkind⟩, hparts⟩ := h
    obtain ⟨enclosure, henclosure⟩ := Enclosure.ofParts_isOk_iff.mpr hparts
    refine ⟨⟨draft.name, draft.path, draft.pattern, kind, enclosure, hname, hpattern⟩, ?_⟩
    obtain ⟨hlabel, hscope⟩ := Enclosure.ofParts_eq_ok_iff.mp henclosure
    rw [check_eq_ok_iff, Tag.draft, ← hlabel, ← hscope, ← hkind]

end Draft

theorem Tag.draft_injective : Function.Injective Tag.draft := by
  intro a b h
  have hcheck := Draft.check_draft a
  rw [h, Draft.check_draft] at hcheck
  exact (Except.ok.inj hcheck).symm

end TagIndex
