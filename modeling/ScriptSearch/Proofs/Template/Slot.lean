import Mathlib.Logic.ExistsUnique
import ScriptSearch.Proofs.Template

/-! Texts that write a template. The slot of a text is where `%s` stands in it; a text is
well formed if there is one such place and no other. Reading finds the first place, and all
others lie behind it, so exactly the well-formed texts are read. A template is read back from
its own text if neither of its parts has a slot too. -/

namespace ScriptSearch.Template

/-! ### Places of the slot -/

section CutSlot

variable {s before after front back : List Char}

theorem eq_of_cutSlot? (h : cutSlot? s = some (before, after)) :
    s = before ++ '%' :: 's' :: after := by
  fun_induction cutSlot? s generalizing before with
  | case1 => cases h
  | case2 rest =>
    cases h
    rfl
  | case3 c rest hslot ih =>
    obtain ⟨⟨_, _⟩, hcut, heq⟩ := Option.map_eq_some_iff.mp h
    cases heq
    rw [List.cons_append, ← ih hcut]

/-- The place that is found is the first: any other lies in what follows it. -/
theorem place_of_cutSlot? (h : cutSlot? s = some (before, after))
    (hs : s = front ++ '%' :: 's' :: back) :
    (front = before ∧ back = after) ∨ ∃ m, after = m ++ '%' :: 's' :: back := by
  fun_induction cutSlot? s generalizing before front with
  | case1 => cases h
  | case2 rest =>
    cases h
    rcases front with _ | ⟨c, _ | ⟨c', m⟩⟩
    · exact .inl ⟨rfl, by simpa using hs.symm⟩
    · simp at hs
    · exact .inr ⟨m, by simpa using (List.cons.inj (List.cons.inj hs).2).2⟩
  | case3 c rest hslot ih =>
    obtain ⟨⟨_, _⟩, hcut, heq⟩ := Option.map_eq_some_iff.mp h
    cases heq
    cases front with
    | nil =>
      obtain ⟨rfl, rfl⟩ := List.cons.inj hs
      exact absurd rfl (hslot back rfl)
    | cons c' front =>
      obtain ⟨rfl, hrest⟩ := List.cons.inj hs
      rcases ih hcut hrest with ⟨rfl, rfl⟩ | hlater
      · exact .inl ⟨rfl, rfl⟩
      · exact .inr hlater

theorem no_place_of_cutSlot? (h : cutSlot? s = none) (front back : List Char) :
    s ≠ front ++ '%' :: 's' :: back := by
  intro hs
  fun_induction cutSlot? s generalizing front with
  | case1 => simp at hs
  | case2 rest => cases h
  | case3 c rest hslot ih =>
    cases front with
    | nil =>
      obtain ⟨rfl, rfl⟩ := List.cons.inj hs
      exact absurd rfl (hslot back rfl)
    | cons c' front => exact ih (Option.map_eq_none_iff.mp h) front (List.cons.inj hs).2

end CutSlot

/-! ### Well-formed texts -/

/-- There is exactly one way to cut the text at a `%s`. -/
def WellFormed (text : String) : Prop :=
  ∃! cut : String × String, text = cut.1 ++ "%s" ++ cut.2

variable {text : String}

theorem eq_cut_iff (cut : String × String) :
    text = cut.1 ++ "%s" ++ cut.2 ↔ text.toList = cut.1.toList ++ '%' :: 's' :: cut.2.toList := by
  rw [← String.toList_inj]
  simp

/-- Reading a text: no slot, a slot and another one behind it, or one slot only. -/
theorem parse_cases (text : String) :
    (cutSlot? text.toList = none ∧ parse text = .error (.noSlot text)) ∨
      ∃ before after, cutSlot? text.toList = some (before, after) ∧
        ((∃ cut, cutSlot? after = some cut ∧ parse text = .error (.manySlots text)) ∨
          (cutSlot? after = none ∧
            parse text = .ok ⟨String.ofList before, String.ofList after⟩)) := by
  unfold parse
  cases hcut : cutSlot? text.toList with
  | none => exact .inl ⟨rfl, rfl⟩
  | some cut =>
    refine .inr ⟨cut.1, cut.2, rfl, ?_⟩
    cases hafter : cutSlot? cut.2 with
    | none => exact .inr ⟨rfl, by simp [hafter]⟩
    | some cut' => exact .inl ⟨cut', rfl, by simp [hafter]⟩

/-- A text that is read is well formed, and the template is written as the text. -/
theorem wellFormed_of_parse {t : Template} (h : parse text = .ok t) :
    WellFormed text ∧ t.text = text := by
  rcases parse_cases text with ⟨_, herror⟩ | ⟨before, after, hcut, ⟨_, _, herror⟩ | ⟨hlast, hok⟩⟩
  · cases h.symm.trans herror
  · cases h.symm.trans herror
  · cases h.symm.trans hok
    have htext := eq_of_cutSlot? hcut
    have hplace : text = String.ofList before ++ "%s" ++ String.ofList after :=
      (eq_cut_iff (String.ofList before, String.ofList after)).mpr (by simpa using htext)
    refine ⟨⟨(String.ofList before, String.ofList after), hplace, ?_⟩, hplace.symm⟩
    intro cut hother
    rcases place_of_cutSlot? hcut ((eq_cut_iff cut).mp hother) with ⟨hb, ha⟩ | ⟨m, hm⟩
    · rw [← hb, ← ha]
      simp
    · exact absurd hm (no_place_of_cutSlot? hlast m _)

/-- A text that is refused is not well formed, and the error names it. -/
theorem not_wellFormed_of_parse {e : TemplateError} (h : parse text = .error e) :
    ¬ WellFormed text ∧ e.text = text := by
  rcases parse_cases text with
    ⟨hnone, herror⟩ | ⟨before, after, hcut, ⟨cut', hnext, herror⟩ | ⟨_, hok⟩⟩
  · cases h.symm.trans herror
    refine ⟨?_, rfl⟩
    rintro ⟨cut, hcut, _⟩
    exact no_place_of_cutSlot? hnone _ _ ((eq_cut_iff cut).mp hcut)
  · cases h.symm.trans herror
    refine ⟨?_, rfl⟩
    -- The first place and the first one behind it cut the text in two ways.
    intro hunique
    have hfirst := eq_of_cutSlot? hcut
    have hsecond := eq_of_cutSlot? hnext
    have heq := hunique.unique
      ((eq_cut_iff (String.ofList before, String.ofList after)).mpr (by simpa using hfirst))
      ((eq_cut_iff (String.ofList (before ++ '%' :: 's' :: cut'.1), String.ofList cut'.2)).mpr
        (by simpa [hsecond] using hfirst))
    have hlength := congrArg (fun cut => cut.1.toList.length) heq
    simp at hlength
  · cases h.symm.trans hok

theorem exists_parse_ok_iff (text : String) : (∃ t, parse text = .ok t) ↔ WellFormed text := by
  constructor
  · rintro ⟨t, h⟩
    exact (wellFormed_of_parse h).1
  · intro h
    cases hparse : parse text with
    | ok t => exact ⟨t, rfl⟩
    | error e => exact absurd h (not_wellFormed_of_parse hparse).1

/-! ### Templates with a slot in their parts -/

/-- A `%s` stands somewhere in the text. -/
def HasSlot (text : String) : Prop := "%s".toList <:+: text.toList

section HasSlot

variable {s before after : List Char}

theorem infix_iff : "%s".toList <:+: s ↔ ∃ front back, s = front ++ '%' :: 's' :: back := by
  constructor
  · rintro ⟨front, back, rfl⟩
    exact ⟨front, back, by simp⟩
  · rintro ⟨front, back, rfl⟩
    exact ⟨front, back, by simp⟩

theorem cutSlot?_eq_none_iff : cutSlot? s = none ↔ ¬ "%s".toList <:+: s := by
  rw [infix_iff]
  constructor
  · rintro h ⟨front, back, hs⟩
    exact no_place_of_cutSlot? h front back hs
  · intro h
    cases hcut : cutSlot? s with
    | none => rfl
    | some cut => exact absurd ⟨cut.1, cut.2, eq_of_cutSlot? hcut⟩ h

/-- What stands before a slot and has none itself does not move the cut. -/
theorem cutSlot?_append (h : ¬ "%s".toList <:+: before) (after : List Char) :
    cutSlot? (before ++ '%' :: 's' :: after) = some (before, after) := by
  cases hcut : cutSlot? (before ++ '%' :: 's' :: after) with
  | none => exact absurd rfl (no_place_of_cutSlot? hcut before after)
  | some cut =>
    obtain ⟨front, back⟩ := cut
    rcases place_of_cutSlot? hcut rfl with ⟨rfl, rfl⟩ | ⟨m, rfl⟩
    · rfl
    · -- The place that is found would lie in `before`.
      have htext : before ++ '%' :: 's' :: after =
          (front ++ '%' :: 's' :: m) ++ '%' :: 's' :: after := by
        simpa using eq_of_cutSlot? hcut
      exact absurd (infix_iff.mpr ⟨front, m, List.append_cancel_right htext⟩) h

/-- The first slot has no other one before it. -/
theorem not_infix_of_cutSlot? (h : cutSlot? s = some (before, after)) :
    ¬ "%s".toList <:+: before := by
  intro hbefore
  obtain ⟨front, m, rfl⟩ := infix_iff.mp hbefore
  have hs : s = front ++ '%' :: 's' :: (m ++ '%' :: 's' :: after) := by
    simpa using eq_of_cutSlot? h
  rcases place_of_cutSlot? h hs with ⟨hfront, _⟩ | ⟨m', hafter⟩
  · have hlength := congrArg List.length hfront
    simp at hlength
  · have hlength := congrArg List.length hafter
    simp at hlength
    omega

end HasSlot

instance : DecidablePred HasSlot := fun text =>
  decidable_of_iff (cutSlot? text.toList ≠ none) (by
    rw [Ne, cutSlot?_eq_none_iff, not_not, HasSlot])

/-- A text that does not go on with the second character of a slot makes none at the seam. -/
theorem hasSlot_append_iff {a b : String} (h : b.toList.head? ≠ some 's') :
    HasSlot (a ++ b) ↔ HasSlot a ∨ HasSlot b := by
  unfold HasSlot
  rw [String.toList_append]
  constructor
  · rw [infix_iff]
    rintro ⟨front, back, hs⟩
    rcases List.append_eq_append_iff.mp hs with ⟨m, hfront, hb⟩ | ⟨m, ha, hm⟩
    · exact .inr (infix_iff.mpr ⟨m, back, hb⟩)
    · rcases m with _ | ⟨c, _ | ⟨c', m⟩⟩
      · exact .inr (infix_iff.mpr ⟨[], back, by simpa using hm.symm⟩)
      · have hb : 's' :: back = b.toList := (List.cons.inj hm).2
        exact absurd (by rw [← hb, List.head?_cons]) h
      · obtain ⟨rfl, hm'⟩ := List.cons.inj hm
        obtain ⟨rfl, _⟩ := List.cons.inj hm'
        exact .inl (infix_iff.mpr ⟨front, m, ha⟩)
  · rintro (ha | hb)
    · exact ha.trans (List.prefix_append _ _).isInfix
    · exact hb.trans (List.suffix_append _ _).isInfix

theorem toList_text (t : Template) :
    t.text.toList = t.before.toList ++ '%' :: 's' :: t.after.toList := by
  simp [Template.text]

/-- A template is read back from its text exactly if neither of its parts has a slot. -/
theorem parse_text_eq_ok_iff (t : Template) :
    parse t.text = .ok t ↔ ¬ HasSlot t.before ∧ ¬ HasSlot t.after := by
  constructor
  · intro h
    rcases parse_cases t.text with
      ⟨_, herror⟩ | ⟨before, after, hcut, ⟨_, _, herror⟩ | ⟨hlast, hok⟩⟩
    · cases h.symm.trans herror
    · cases h.symm.trans herror
    · obtain rfl : t = ⟨String.ofList before, String.ofList after⟩ :=
        Except.ok.inj (h.symm.trans hok)
      have hbefore := not_infix_of_cutSlot? hcut
      have hafter := cutSlot?_eq_none_iff.mp hlast
      simpa [HasSlot] using ⟨hbefore, hafter⟩
  · rintro ⟨hbefore, hafter⟩
    have hcut : cutSlot? t.text.toList = some (t.before.toList, t.after.toList) := by
      rw [toList_text]
      exact cutSlot?_append hbefore t.after.toList
    have hlast : cutSlot? t.after.toList = none := cutSlot?_eq_none_iff.mpr hafter
    simp [parse, hcut, hlast]

/-- Then the text is well formed, and only then. -/
theorem wellFormed_text_iff (t : Template) : WellFormed t.text ↔ parse t.text = .ok t := by
  constructor
  · intro h
    obtain ⟨t', hparse⟩ := (exists_parse_ok_iff t.text).mpr h
    obtain ⟨before, after⟩ := t'
    have hplace : t.text = before ++ "%s" ++ after := (wellFormed_of_parse hparse).2.symm
    have hcuts : (before, after) = (t.before, t.after) := h.unique hplace rfl
    obtain ⟨rfl, rfl⟩ := Prod.mk.inj hcuts
    exact hparse
  · intro h
    exact (wellFormed_of_parse h).1

end ScriptSearch.Template
