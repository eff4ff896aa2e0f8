import Boilerplate.Proofs.Generation.SelectedFields
import Boilerplate.Proofs.Text.TidyLines

namespace Boilerplate

open Text (CodePoints lineFeed)

namespace Text

/-- Whether a text ends with one line feed and has something before it. -/
def EndsInOneFeed (text : CodePoints) : Prop :=
  ∃ before, text = before ++ [lineFeed] ∧ ∃ n ∈ before.getLast?, n ≠ lineFeed

theorem endsInOneFeed_ofString {text : String} {before : List Char}
    (h : text.toList = before ++ ['\n']) (hlast : ∃ c ∈ before.getLast?, c ≠ '\n') :
    EndsInOneFeed text := by
  obtain ⟨c, hc, hne⟩ := hlast
  refine ⟨CodePoints.ofChars before, ?_, c.toNat, ?_, fun hfeed ↦ hne ?_⟩
  · rw [CodePoints.ofString, h, CodePoints.ofChars, List.map_append]
    rfl
  · rw [CodePoints.ofChars, List.getLast?_map, Option.mem_def.mp hc]
    rfl
  · exact Char.toNat_inj.mp hfeed

theorem endsInOneFeed_tidy {code : String} (h : tidy code ≠ "\n") : EndsInOneFeed (tidy code) := by
  refine endsInOneFeed_ofString String.toList_ofList ?_
  generalize hlines : joinLines (limitBlankLines 0 ((splitLines code.toList).map trimEnd)) = cs
  cases hlast : (trimFeeds cs).getLast? with
  | none =>
    have hnil : trimFeeds cs = [] := List.getLast?_eq_none_iff.mp hlast
    exact absurd (by rw [tidy, hlines, hnil]; rfl) h
  | some c => exact ⟨c, rfl, getLast?_trimFeeds cs c hlast⟩

end Text

namespace Result

structure IsFailure (r : Result) (e : GenerationError) : Prop where
  code : r.code = []
  warnings : r.warnings = []
  metadata : r.metadata = none
  error : r.error = some e
  errorMessage? : r.errorMessage? = some ("Code generation failed: " ++ e.message)

structure IsSuccess (r : Result) (c : ClassOutline) : Prop where
  code : Text.EndsInOneFeed r.code
  metadata : r.metadata = some ⟨c.className, c.fields.length⟩
  error : r.error = none
  errorMessage? : r.errorMessage? = none

theorem isSuccess_mk {code : CodePoints} {c : ClassOutline} (h : Text.EndsInOneFeed code)
    (warnings : List CodePoints) :
    (⟨code, warnings, some ⟨c.className, c.fields.length⟩, none⟩ : Result).IsSuccess c :=
  ⟨h, rfl, rfl, rfl⟩

theorem isFailure_failed (e : GenerationError) : (failed e).IsFailure e := ⟨rfl, rfl, rfl, rfl, rfl⟩

end Result

namespace Generator

variable {g : Generator} {s : Settings} {c : ClassOutline} {message : CodePoints}

theorem endsInOneFeed_informational (h : informational? s c = some message) :
    Text.EndsInOneFeed (message ++ [lineFeed]) := by
  rw [informational?] at h
  split at h
  · obtain rfl := Option.some.inj h
    exact ⟨_, rfl, '.'.toNat, by decide, by decide⟩
  split at h
  · split at h
    · obtain rfl := Option.some.inj h
      refine ⟨_, rfl, '.'.toNat, ?_, by decide⟩
      rw [noMatchMessage, List.getLast?_append]
      rfl
    · obtain rfl := Option.some.inj h
      exact ⟨_, rfl, '.'.toNat, by decide, by decide⟩
  · cases h

theorem endsInOneFeed_codeFor (hany : s.anyEnabled = true) :
    Text.EndsInOneFeed (codeFor s c) := by
  refine Text.endsInOneFeed_tidy fun hfeed ↦ ?_
  obtain ⟨width, title, htitle⟩ := exists_title_prefix (c := c) hany
  rw [codeFor, hfeed] at htitle
  cases width with
  | zero => simp [Text.padded] at htitle
  | succ width => simp [Text.padded, List.replicate_succ] at htitle

def unnamed : ClassOutline :=
  ⟨none, [(Field.make? "int" "a" 1).toOption, (Field.make? "int" "a" 2).toOption].reduceOption, 0⟩

end Generator

end Boilerplate
