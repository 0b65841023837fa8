import TagIndex.Proofs.Actions
import TagIndex.Proofs.Listing

namespace TagIndex

namespace Syntax

end Syntax

/-- Whether a draft passes its checks and the device takes the call for it. -/
def Device.passes (device : Device) (draft : Draft) (call : Nat) : Bool :=
  draft.check.toOption.isSome && (device.onWrite call).isNone

/-- The number of drafts before the first that does not pass, where the device has had `calls` calls
and gets one for each draft. -/
def Device.reach (device : Device) (calls : Nat) (drafts : List Draft) : Nat :=
  (drafts.zipIdx (calls + 1)).findIdx fun entry => !device.passes entry.1 entry.2

namespace Device

variable {device : Device} {calls : Nat} {draft : Draft}

theorem reach_cons_of_passes (h : device.passes draft (calls + 1)) (rest : List Draft) :
    device.reach calls (draft :: rest) = device.reach (calls + 1) rest + 1 := by
  simp [reach, List.findIdx_cons, h]

theorem reach_cons_of_not_passes (h : ¬device.passes draft (calls + 1)) (rest : List Draft) :
    device.reach calls (draft :: rest) = 0 := by
  simp [reach, List.findIdx_cons, h]

end Device

namespace Session

open Syntax (Tree)

variable {device : Device} {drafts : List Draft} {failure : Option Failure}

/-- How work on drafts ends of which `k` get through, and how many calls it makes. -/
inductive Ending (device : Device) (calls : Nat) (drafts : List Draft) (k : Nat)
    (failure : Option Failure) (made : Nat) : Prop
  | complete (hk : k = drafts.length) (hfailure : failure = none) (hmade : made = k)
  | refused {draft : Draft} {refusal : Refusal} (hnext : drafts[k]? = some draft)
      (hcheck : draft.check = .error refusal) (hfailure : failure = some (.refused refusal))
      (hmade : made = k)
  | unwritten {draft : Draft} {tag : Tag} {fault : Fault} (hnext : drafts[k]? = some draft)
      (hcheck : draft.check = .ok tag) (hcall : device.onWrite (calls + k + 1) = some fault)
      (hfailure : failure = some (.ofSink draft.name fault)) (hmade : made = k + 1)

theorem Ending.cons {calls k made : Nat} (h : Ending device (calls + 1) drafts k failure made)
    (draft : Draft) : Ending device calls (draft :: drafts) (k + 1) failure (made + 1) := by
  cases h with
  | complete hk hfailure hmade =>
    exact .complete (by rw [hk, List.length_cons]) hfailure (by rw [hmade])
  | refused hnext hcheck hfailure hmade => exact .refused hnext hcheck hfailure (by rw [hmade])
  | unwritten hnext hcheck hcall hfailure hmade =>
    rw [Nat.add_right_comm calls 1 k, Nat.add_assoc calls k 1] at hcall
    exact .unwritten hnext hcheck hcall hfailure (by rw [hmade])

/-- The calls that are made for drafts get as far as the device lets them. -/
theorem Made.ending {calls : List Call} (h : Made drafts calls failure) (before : Nat)
    (hfaults : calls.map Call.fault =
      (List.range' (before + 1) calls.length).map device.onWrite) :
    let k := device.reach before drafts
    (∃ tags : List Tag, drafts.take k = tags.map Tag.draft ∧
      (calls.filter Call.taken).map (fun call => call.tag.line) = tags.map Tag.line) ∧
    calls.countP Call.taken = k ∧ Ending device before drafts k failure calls.length := by
  induction h generalizing before with
  | nil => exact ⟨⟨[], rfl, rfl⟩, rfl, .complete rfl rfl rfl⟩
  | @taken tag rest calls failure _ ih =>
    rw [List.length_cons, List.range'_succ, List.map_cons, List.map_cons] at hfaults
    obtain ⟨hcall, hmore⟩ := List.cons.inj hfaults
    have hpasses : device.passes tag.draft (before + 1) := by
      simp [Device.passes, ← hcall, Except.toOption]
    obtain ⟨⟨tags, htags, hlines⟩, hcount, hending⟩ := ih (before + 1) hmore
    intro k
    have hk : k = device.reach (before + 1) rest + 1 := Device.reach_cons_of_passes hpasses rest
    rw [hk]
    refine ⟨⟨tag :: tags, ?_, ?_⟩, ?_, hending.cons tag.draft⟩
    · rw [List.take_succ_cons, htags, List.map_cons]
    · rw [List.filter_cons_of_pos rfl, List.map_cons, hlines, List.map_cons]
    · rw [List.countP_cons_of_pos rfl, hcount]
  | unwritten tag rest fault =>
    have hcall : some fault = device.onWrite (before + 1) := by simpa using hfaults
    have hpasses : ¬device.passes tag.draft (before + 1) := by
      simp [Device.passes, ← hcall]
    intro k
    have hk : k = 0 := Device.reach_cons_of_not_passes hpasses rest
    rw [hk]
    exact ⟨⟨[], rfl, rfl⟩, rfl, .unwritten rfl (Draft.check_draft tag) hcall.symm rfl rfl⟩
  | @refused draft refusal rest hcheck =>
    have hpasses : ¬device.passes draft (before + 1) := by
      simp [Device.passes, hcheck, Except.toOption]
    intro k
    have hk : k = 0 := Device.reach_cons_of_not_passes hpasses rest
    rw [hk]
    exact ⟨⟨[], rfl, rfl⟩, rfl, .refused rfl hcheck rfl rfl⟩

end Session

end TagIndex
