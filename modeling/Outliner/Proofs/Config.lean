import Outliner.Config.Reader
import Outliner.Proofs.Json
import Outliner.Proofs.Keyword.RoundTrip

/-!
# Outliner — settings that are saved and loaded

Settings are saved as an object with a field for each, and every number is loaded as it was saved.
The keywords are saved as the sequence that is their writing, so they are what is read from it.

Main results:

* `ofJson?_toJson` — what is loaded of saved settings.
* `saved_keywords_iff` — when the keywords of a sequence outlast it.
-/

namespace Outliner

namespace Setting

theorem ofName?_name (s : Setting) : ofName? s.name = some s := by
  cases s <;> decide

theorem unescape?_name (s : Setting) : Json.unescape? s.name = some s.name := by
  cases s <;> decide

theorem assign?_keywords (config : Config) (sequence : Text) :
    keywords.assign? config (.ofText sequence) =
      (Keywords.parse sequence).toOption.map fun k => { config with keywords := k } := by
  rw [assign?, Json.text?_ofText, Option.bind_eq_bind, Option.bind_some]
  cases Keywords.parse sequence with
  | error e => rfl
  | ok k => rfl

end Setting

namespace Config

variable {config : Config}

/-- A field of a setting that was not given before is taken over, and the other fields follow. -/
theorem ofFields?_cons {s : Setting} {seen : List Setting} (hNew : s ∉ seen) (config : Config)
    (value : Json) (fields : List (Text × Json)) :
    ofFields? config seen ((s.name, value) :: fields) =
      (s.assign? config value).bind fun config => ofFields? config (s :: seen) fields := by
  rw [ofFields?, s.unescape?_name]
  simp only [Option.bind_eq_bind, Option.bind_some, s.ofName?_name, if_neg hNew]

/-- **Saved settings** are loaded as they were, but for the keywords: these are what their writing
is read as. -/
theorem ofJson?_toJson (config : Config) :
    ofJson? config.toJson =
      (Keywords.parse config.keywords.render).toOption.map fun k =>
        { config with keywords := k } := by
  rw [toJson, ofJson?, ofFields?_cons (by decide), Setting.assign?_keywords]
  cases Keywords.parse config.keywords.render with
  | error e => rfl
  | ok k =>
    -- The numbers follow, each in the place of the standard value that was there.
    simp (disch := decide) only [Except.toOption, Option.map_some, Option.bind_some,
      ofFields?_cons, Setting.assign?, Json.word?_ofNat]
    rfl

/-- **The keywords of a sequence outlast it**, saved as their writing or with the settings, exactly
if none of its words is nothing but a shortcut key. -/
theorem saved_keywords_iff {sequence : Text}
    (h : Keywords.parse sequence = .ok config.keywords) :
    (Keywords.parse config.keywords.render = .ok config.keywords ↔
        ∀ word ∈ Keywords.listed sequence, word.head? ≠ some '(') ∧
      (ofJson? config.toJson = some config ↔
        ∀ word ∈ Keywords.listed sequence, word.head? ≠ some '(') := by
  have hKeywords := Keywords.parse_render_iff h
  refine ⟨hKeywords, ?_⟩
  rw [← hKeywords, ofJson?_toJson]
  cases Keywords.parse config.keywords.render with
  | error e => simp [Except.toOption]
  | ok k =>
    simp only [Except.toOption, Option.map_some, Option.some.injEq, Except.ok.injEq]
    constructor
    · intro hSame
      exact congrArg Config.keywords hSame
    · rintro rfl
      rfl

/-- Shortcut keys behind their words, white space of several kinds, and bars behind the first. -/
theorem saved_keywords_iff_bars :
    let config : Config :=
      { keywords :=
          { active := ["TODO".toList, "NEXT".toList]
            done := ["a|b".toList, "|".toList, "DONE".toList] }
        minLevel := 18446744073709551615 }
    Keywords.parse config.keywords.render = .ok config.keywords ∧
      ofJson? config.toJson = some config := by
  intro config
  have hParse : Keywords.parse "TODO(t!)\u00a0NEXT |a|b\t| DONE(d".toList = .ok config.keywords := by
    decide
  have hSaved := saved_keywords_iff hParse
  exact ⟨hSaved.1.mpr (by decide), hSaved.2.mpr (by decide)⟩

/-- Of a word that is nothing but a shortcut key an empty word is kept, which does not show in
writing. -/
theorem lone_shortcut_lost :
    Keywords.parse "(t)".toList = .ok ⟨[], [[]]⟩ ∧
      Keywords.parse (Keywords.render ⟨[], [[]]⟩) = .error .emptyKeywordSequence ∧
        Keywords.parse "TODO (t) | DONE".toList = .ok ⟨["TODO".toList, []], ["DONE".toList]⟩ ∧
          Keywords.parse (Keywords.render ⟨["TODO".toList, []], ["DONE".toList]⟩) =
            .ok .standard := by
  decide

end Config

end Outliner
