import ScriptSearch.Proofs.Template.Slot

/-! The positions at which a slot stands in a text. The ways to cut a text at a `%s` are the
positions of the `%s`, so the number of positions decides what a text is read as: with none or
with several it is refused, and with one it is read, and a name is put in that one place. A
template is written with one position more than its two parts have between them, whatever
stands at the seams. -/

namespace ScriptSearch.Template

/-- A `%s` stands behind the first `i` characters of the text. -/
def SlotAt (text : String) (i : Nat) : Prop := "%s".toList <+: text.toList.drop i

/-- The text with a name in the place of the two characters behind the first `i`. -/
def fillAt (name text : String) (i : Nat) : String :=
  String.ofList (text.toList.take i ++ name.toList ++ text.toList.drop (i + 2))

instance (text : String) : DecidablePred (SlotAt text) := fun i =>
  inferInstanceAs (Decidable ("%s".toList <+: text.toList.drop i))

variable {text name : String} {i : Nat}

/-! ### Positions and cuts -/

theorem slotAt_iff :
    SlotAt text i ↔
      ∃ front back, text.toList = front ++ '%' :: 's' :: back ∧ front.length = i := by
  constructor
  · rintro ⟨back, hback⟩
    have hdrop : '%' :: 's' :: back = text.toList.drop i := by simpa using hback
    have hlength : i ≤ text.toList.length := by
      have := congrArg List.length hdrop
      simp only [List.length_cons, List.length_drop] at this
      omega
    refine ⟨text.toList.take i, back, ?_, List.length_take_of_le hlength⟩
    rw [hdrop, List.take_append_drop]
  · rintro ⟨front, back, htext, rfl⟩
    exact ⟨back, by simp [htext]⟩

theorem slotAt_of_cut {front back : List Char} (h : text.toList = front ++ '%' :: 's' :: back) :
    SlotAt text front.length :=
  slotAt_iff.mpr ⟨front, back, h, rfl⟩

theorem hasSlot_iff_slotAt (text : String) : HasSlot text ↔ ∃ i, SlotAt text i := by
  rw [HasSlot, infix_iff]
  constructor
  · rintro ⟨front, back, h⟩
    exact ⟨front.length, slotAt_of_cut h⟩
  · rintro ⟨i, h⟩
    obtain ⟨front, back, htext, _⟩ := slotAt_iff.mp h
    exact ⟨front, back, htext⟩

/-- A cut is given by its position. -/
theorem cut_inj {front back front' back' : List Char}
    (h : front ++ '%' :: 's' :: back = front' ++ '%' :: 's' :: back')
    (hlength : front.length = front'.length) : front = front' ∧ back = back' := by
  obtain ⟨hfront, hback⟩ := List.append_inj h hlength
  exact ⟨hfront, by simpa using hback⟩

/-- One way to cut the text is one position. -/
theorem existsUnique_slotAt_iff (text : String) : (∃! i, SlotAt text i) ↔ WellFormed text := by
  constructor
  · rintro ⟨i, hi, hunique⟩
    obtain ⟨front, back, htext, rfl⟩ := slotAt_iff.mp hi
    refine
      ⟨(String.ofList front, String.ofList back), (eq_cut_iff _).mpr (by simpa using htext), ?_⟩
    intro cut hcut
    have hother := (eq_cut_iff cut).mp hcut
    have hlength := hunique cut.1.toList.length (slotAt_of_cut hother)
    obtain ⟨hfront, hback⟩ := cut_inj (hother.symm.trans htext) hlength
    simp [← hfront, ← hback]
  · rintro ⟨cut, hcut, hunique⟩
    have htext := (eq_cut_iff cut).mp hcut
    refine ⟨cut.1.toList.length, slotAt_of_cut htext, ?_⟩
    intro i hi
    obtain ⟨front, back, hother, rfl⟩ := slotAt_iff.mp hi
    have hcut' := hunique (String.ofList front, String.ofList back)
      ((eq_cut_iff _).mpr (by simpa using hother))
    simp [← hcut']

/-! ### Reading by the number of positions -/

/-- The ways in which a text is read: it has no slot, it has several, or it has one. -/
theorem parse_of_positions (text : String) :
    ((∀ i, ¬ SlotAt text i) ∧ parse text = .error (.noSlot text)) ∨
      ((∃ i j, i < j ∧ SlotAt text i ∧ SlotAt text j) ∧
        parse text = .error (.manySlots text)) ∨
      ((∃! i, SlotAt text i) ∧ ∃ t, parse text = .ok t) := by
  rcases parse_cases text with
    ⟨hnone, herror⟩ | ⟨before, after, hcut, ⟨cut, hnext, herror⟩ | ⟨_, hok⟩⟩
  · refine .inl ⟨fun i hi => ?_, herror⟩
    obtain ⟨front, back, htext, _⟩ := slotAt_iff.mp hi
    exact no_place_of_cutSlot? hnone front back htext
  · have hfirst := eq_of_cutSlot? hcut
    have hsecond : text.toList = (before ++ '%' :: 's' :: cut.1) ++ '%' :: 's' :: cut.2 := by
      rw [hfirst, eq_of_cutSlot? hnext]
      simp
    refine .inr (.inl ⟨⟨_, _, ?_, slotAt_of_cut hfirst, slotAt_of_cut hsecond⟩, herror⟩)
    simp
  · exact .inr (.inr
      ⟨(existsUnique_slotAt_iff text).mpr (wellFormed_of_parse hok).1, _, hok⟩)

theorem parse_of_no_slot (h : ∀ i, ¬ SlotAt text i) : parse text = .error (.noSlot text) := by
  rcases parse_of_positions text with ⟨_, herror⟩ | ⟨⟨i, _, _, hi, _⟩, _⟩ | ⟨⟨i, hi, _⟩, _⟩
  · exact herror
  · exact absurd hi (h i)
  · exact absurd hi (h i)

theorem parse_of_many_slots {j : Nat} (hij : i < j) (hi : SlotAt text i) (hj : SlotAt text j) :
    parse text = .error (.manySlots text) := by
  rcases parse_of_positions text with ⟨hnone, _⟩ | ⟨_, herror⟩ | ⟨hunique, _⟩
  · exact absurd hi (hnone i)
  · exact herror
  · exact absurd (hunique.unique hi hj) (Nat.ne_of_lt hij)

theorem exists_parse_ok_iff_slotAt (text : String) :
    (∃ t, parse text = .ok t) ↔ ∃! i, SlotAt text i := by
  rw [exists_parse_ok_iff, existsUnique_slotAt_iff]

/-! ### The one position -/

section Read

variable {t : Template}

/-- A template that is read has no slot in its parts. -/
theorem not_hasSlot_of_parse (h : parse text = .ok t) :
    ¬ HasSlot t.before ∧ ¬ HasSlot t.after := by
  have htext : parse t.text = .ok t := by rwa [(wellFormed_of_parse h).2]
  exact (parse_text_eq_ok_iff t).mp htext

/-- The name is put where the slot stands, and nothing else is touched. -/
theorem expand_of_parse (h : parse text = .ok t) (hi : SlotAt text i) (name : String) :
    t.expand name = fillAt name text i := by
  obtain ⟨hwell, htext⟩ := wellFormed_of_parse h
  have hpart : text.toList = t.before.toList ++ '%' :: 's' :: t.after.toList := by
    rw [← htext, toList_text]
  obtain rfl : i = t.before.toList.length :=
    ((existsUnique_slotAt_iff text).mpr hwell).unique hi (slotAt_of_cut hpart)
  rw [← String.toList_inj, fillAt, hpart, expand]
  simp

end Read

/-! ### Both directions -/

/-- A text with a slot in a part of its template has several positions. -/
theorem parse_text (t : Template) :
    parse t.text =
      if HasSlot t.before ∨ HasSlot t.after then .error (.manySlots t.text) else .ok t := by
  split
  next hparts =>
    have hnot : parse t.text ≠ .ok t := by
      rw [Ne, parse_text_eq_ok_iff, ← not_or, not_not]
      exact hparts
    rcases parse_of_positions t.text with ⟨hnone, _⟩ | ⟨_, herror⟩ | ⟨hunique, _⟩
    · exact absurd (slotAt_of_cut (toList_text t)) (hnone _)
    · exact herror
    · exact absurd
        ((wellFormed_text_iff t).mp ((existsUnique_slotAt_iff t.text).mp hunique)) hnot
  next hparts => exact (parse_text_eq_ok_iff t).mpr (not_or.mp hparts)

/-- Reading is the inverse of writing. A text is read exactly if `%s` stands at one position of
it; the template is written as that text, its parts have no slot, and every name goes to that
position as it is. The other way round, a template is read back from its text if its parts
have no slot, and is refused for having several if one of them has. -/
theorem parse_text_inverse :
    (∀ text : String,
      ((∃ t, parse text = .ok t) ↔ ∃! i, SlotAt text i) ∧
      ∀ t, parse text = .ok t →
        t.text = text ∧ ¬ HasSlot t.before ∧ ¬ HasSlot t.after ∧
        ∀ i, SlotAt text i → ∀ name, t.expand name = fillAt name text i) ∧
    ∀ t : Template, parse t.text =
      if HasSlot t.before ∨ HasSlot t.after then .error (.manySlots t.text) else .ok t := by
  refine ⟨fun text => ⟨exists_parse_ok_iff_slotAt text, fun t h => ?_⟩, parse_text⟩
  obtain ⟨hbefore, hafter⟩ := not_hasSlot_of_parse h
  exact ⟨(wellFormed_of_parse h).2, hbefore, hafter, fun i hi name => expand_of_parse h hi name⟩

/-- The slot of `%%ss` is its two inner characters, and a name with a slot of its own is put
there as it stands. -/
theorem parse_text_inverse_seams :
    parse "%%ss" = .ok ⟨"%", "s"⟩ ∧ SlotAt "%%ss" 1 ∧
      (⟨"%", "s"⟩ : Template).text = "%%ss" ∧
      (⟨"%", "s"⟩ : Template).expand "a%s{}" = "%a%s{}s" := by
  have hparse : parse "%%ss" = .ok ⟨"%", "s"⟩ := by decide
  have hslot : SlotAt "%%ss" 1 := by decide
  obtain ⟨htext, _, _, hexpand⟩ := (parse_text_inverse.1 "%%ss").2 ⟨"%", "s"⟩ hparse
  exact ⟨hparse, hslot, htext, (hexpand 1 hslot "a%s{}").trans (by decide)⟩

end ScriptSearch.Template
