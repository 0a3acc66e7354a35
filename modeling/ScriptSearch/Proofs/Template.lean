import Mathlib.Tactic.Common
import ScriptSearch.SearchPath

/-! Templates against their written forms. A text that is read as a template is cut at its
slot, so putting a name in the slot of the template is the same as putting it in the place
of the slot of the text. Lists of texts are read one by one. -/

namespace ScriptSearch

namespace Template

variable {name before after : List Char}

/-- The text is filled where it is cut. -/
theorem fillChars_of_cutSlot? {s : List Char} (h : cutSlot? s = some (before, after)) :
    fillChars name s = before ++ name ++ after := by
  fun_induction cutSlot? s generalizing before with
  | case1 => cases h
  | case2 rest =>
    cases h
    simp [fillChars]
  | case3 c rest hslot ih =>
    obtain ⟨⟨front, back⟩, hcut, heq⟩ := Option.map_eq_some_iff.mp h
    cases heq
    rw [fillChars, ih hcut]
    · simp
    · exact hslot

theorem fill_of_parse {text : String} {t : Template} (h : parse text = .ok t) (name : String) :
    fill name text = t.before ++ name ++ t.after := by
  unfold parse at h
  cases hcut : cutSlot? text.toList with
  | none => simp [hcut] at h
  | some cut =>
    obtain ⟨before, after⟩ := cut
    simp only [hcut] at h
    split at h
    · cases h
    · cases h
      rw [fill, fillChars_of_cutSlot? hcut]
      simp [String.ofList_append, String.append_assoc]

end Template

namespace SearchPath

/-- The templates are what the texts are read as, one by one. -/
def Reads (texts : List String) (path : SearchPath) : Prop :=
  List.Forall₂ (fun text t => Template.parse text = .ok t) texts path

theorem map_fill_of_reads {texts : List String} {path : SearchPath} (h : Reads texts path)
    (name : String) :
    texts.map (Template.fill name) = path.map fun t => t.before ++ name ++ t.after := by
  induction h with
  | nil => rfl
  | cons hparse _ ih => rw [List.map_cons, List.map_cons, ih, Template.fill_of_parse hparse]

/-- Texts that are all read extend the path by what they are read as. -/
theorem appendTexts_of_none {path : SearchPath} {texts : List String}
    (h : (path.appendTexts texts).2 = none) :
    ∃ more, (path.appendTexts texts).1 = path ++ more ∧ Reads texts more := by
  induction texts generalizing path with
  | nil => exact ⟨[], by simp, .nil⟩
  | cons text texts ih =>
    cases hparse : Template.parse text with
    | error e => simp [appendTexts_cons_error hparse] at h
    | ok t =>
      rw [appendTexts_cons_ok hparse] at h ⊢
      obtain ⟨more, hmore, hreads⟩ := ih h
      exact ⟨t :: more, by simp [hmore], .cons hparse hreads⟩

/-- A list that is read has only elements that are read. -/
theorem reads_of_parse {list : String} {path : SearchPath} (h : parse list = .ok path) :
    Reads (Text.elements list) path := by
  unfold parse at h
  cases happ : appendTexts [] (Text.elements list) with
  | mk read error? =>
    rw [happ] at h
    cases error? with
    | some e => cases h
    | none =>
      cases h
      obtain ⟨more, hmore, hreads⟩ := appendTexts_of_none (congrArg Prod.snd happ)
      have hmore' : path = more := by simpa [happ] using hmore
      rwa [hmore']

end SearchPath

end ScriptSearch
