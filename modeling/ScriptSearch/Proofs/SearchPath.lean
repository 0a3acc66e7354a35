import Mathlib.Data.List.Forall2
import ScriptSearch.Proofs.Template.Slot

/-! Lists of written templates. A list is read to its end, or up to its first malformed
text; what is read before that text is kept when a path is extended, and lost when a list is
read by itself. All that was read is legible, which is to say read back from its own text. -/

namespace ScriptSearch.SearchPath

/-- Some texts are read, and the one behind them is refused with the error. -/
def StopsAt (texts : List String) (path : SearchPath) (e : TemplateError) : Prop :=
  ∃ front back, texts = front ++ e.text :: back ∧ Reads front path ∧
    Template.parse e.text = .error e

variable {texts : List String} {path : SearchPath} {e : TemplateError}

theorem reads_or_stopsAt (texts : List String) :
    (∃ path, Reads texts path) ∨ ∃ path e, StopsAt texts path e := by
  induction texts with
  | nil => exact .inl ⟨[], .nil⟩
  | cons text texts ih =>
    cases hparse : Template.parse text with
    | error e =>
      obtain ⟨_, rfl⟩ := Template.not_wellFormed_of_parse hparse
      exact .inr ⟨[], e, [], texts, rfl, .nil, hparse⟩
    | ok t =>
      rcases ih with ⟨path, hreads⟩ | ⟨path, e, front, back, rfl, hreads, herror⟩
      · exact .inl ⟨t :: path, .cons hparse hreads⟩
      · exact .inr ⟨t :: path, e, text :: front, back, rfl, .cons hparse hreads, herror⟩

theorem wellFormed_of_reads (h : Reads texts path) : ∀ text ∈ texts, Template.WellFormed text := by
  induction h with
  | nil => simp
  | cons hparse _ ih => exact List.forall_mem_cons.mpr ⟨(Template.wellFormed_of_parse hparse).1, ih⟩

theorem StopsAt.not_wellFormed (h : StopsAt texts path e) :
    ¬ ∀ text ∈ texts, Template.WellFormed text := by
  obtain ⟨front, back, rfl, _, herror⟩ := h
  intro hall
  exact (Template.not_wellFormed_of_parse herror).1 (hall e.text (by simp))

/-! ### Extending a path -/

theorem appendTexts_of_reads (h : Reads texts path) (before : SearchPath) :
    before.appendTexts texts = (before ++ path, none) := by
  induction h generalizing before with
  | nil => simp
  | cons hparse _ ih =>
    rw [appendTexts_cons_ok hparse, ih, List.append_assoc, List.singleton_append]

theorem appendTexts_of_stopsAt (h : StopsAt texts path e) (before : SearchPath) :
    before.appendTexts texts = (before ++ path, some e) := by
  obtain ⟨front, back, rfl, hreads, herror⟩ := h
  induction hreads generalizing before with
  | nil => rw [List.nil_append, appendTexts_cons_error herror, List.append_nil]
  | cons hparse _ ih =>
    rw [List.cons_append, appendTexts_cons_ok hparse, ih, List.append_assoc,
      List.singleton_append]

/-! ### Lists by themselves -/

theorem parse_of_reads {list : String} (h : Reads (Text.elements list) path) :
    parse list = .ok path := by
  rw [parse, appendTexts_of_reads h]
  rfl

theorem parse_of_stopsAt {list : String} (h : StopsAt (Text.elements list) path e) :
    parse list = .error e := by
  rw [parse, appendTexts_of_stopsAt h]

theorem parse_eq_ok_iff {list : String} : parse list = .ok path ↔ Reads (Text.elements list) path :=
  ⟨reads_of_parse, parse_of_reads⟩

/-! ### Paths that are read back -/

/-- Every template is what its own text is read as. -/
def Legible (path : SearchPath) : Prop := ∀ t ∈ path, Template.parse t.text = .ok t

theorem legible_nil : Legible [] := nofun

theorem legible_append_iff {more : SearchPath} :
    Legible (path ++ more) ↔ Legible path ∧ Legible more :=
  List.forall_mem_append

theorem reads_texts_iff : Reads path.texts path ↔ Legible path := by
  rw [Reads, SearchPath.texts, List.forall₂_map_left_iff, List.forall₂_same, Legible]

/-- A template that was read is written as the text that it was read from. -/
theorem texts_of_reads (h : Reads texts path) : path.texts = texts := by
  induction h with
  | nil => rfl
  | cons hparse _ ih => exact congrArg₂ List.cons (Template.wellFormed_of_parse hparse).2 ih

theorem legible_of_reads (h : Reads texts path) : path.Legible := by
  rw [← reads_texts_iff, texts_of_reads h]
  exact h

/-- What holds of a part of every template of the default search path is said of `home`, as far
as it does not depend on the constant parts. -/
theorem forall_parts_ofHome (q : String → Prop) (home : String)
    (hhome : q (home ++ "/.local/share/bash/") ↔ q home) (hhere : q "./")
    (hextensions : ∀ extension ∈ extensions, q extension) :
    (∀ t ∈ ofHome home, q t.before ∧ q t.after) ↔ q home := by
  rw [ofHome, List.forall_mem_append, List.forall_mem_map, List.forall_mem_map]
  constructor
  · rintro ⟨hscripts, _⟩
    exact hhome.mp (hscripts "" (by decide)).1
  · intro h
    exact ⟨fun extension he => ⟨hhome.mpr h, hextensions extension he⟩,
      fun extension he => ⟨hhere, hextensions extension he⟩⟩

/-- The default search path is read back unless the directory that it begins with has a slot. -/
theorem legible_ofHome_iff (home : String) : (ofHome home).Legible ↔ ¬ Template.HasSlot home := by
  have hscripts :
      Template.HasSlot (home ++ "/.local/share/bash/") ↔ Template.HasSlot home := by
    rw [Template.hasSlot_append_iff (by decide)]
    exact or_iff_left (by decide)
  simp only [Legible, Template.parse_text_eq_ok_iff]
  exact forall_parts_ofHome (¬ Template.HasSlot ·) home (not_congr hscripts) (by decide)
    (by decide)

end ScriptSearch.SearchPath
