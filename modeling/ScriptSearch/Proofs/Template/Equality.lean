import ScriptSearch.Proofs.SearchPath.Elements

/-! When two templates are the same. What a template makes of all names tells where its slot
is: two names of one character are enough, as only the slot can hold both. The written form
tells it as long as the slot is the first `%s` of the text, or the last one. Search paths of
templates that were read are therefore searched in the same way exactly if they are written in
the same way. -/

namespace ScriptSearch

namespace Template

variable {t u : Template}

/-! ### Two names in the slot -/

section Filled

variable {c d : Char} {before after before' after' : List Char}

/-- A place that holds one character and then another is not inside a fixed text. -/
theorem eq_nil_of_both {m : List Char} (hne : c ≠ d) (hc : c :: after = m ++ c :: after')
    (hd : d :: after = m ++ d :: after') : m = [] := by
  cases m with
  | nil => rfl
  | cons x m =>
    have hcx : c = x := (List.cons.inj hc).1
    have hdx : d = x := (List.cons.inj hd).1
    exact absurd (hcx.trans hdx.symm) hne

theorem parts_of_both (hne : c ≠ d) (hc : before ++ c :: after = before' ++ c :: after')
    (hd : before ++ d :: after = before' ++ d :: after') : before = before' ∧ after = after' := by
  -- One of the texts in front begins with the other; what it has beyond that is `m`.
  rcases List.append_eq_append_iff.mp hc with ⟨m, rfl, hm⟩ | ⟨m, rfl, hm⟩
  · rw [List.append_assoc, List.append_cancel_left_eq] at hd
    obtain rfl := eq_nil_of_both hne hm hd
    simpa using hm
  · rw [List.append_assoc, List.append_cancel_left_eq] at hd
    obtain rfl := eq_nil_of_both hne hm hd.symm
    simpa using hm.symm

end Filled

theorem toList_expand_singleton (t : Template) (c : Char) :
    (t.expand (String.singleton c)).toList = t.before.toList ++ c :: t.after.toList := by
  simp [expand]

/-- Two names of one character each tell a template from all others. -/
theorem eq_of_expand_eq {c d : Char} (hne : c ≠ d)
    (hc : t.expand (String.singleton c) = u.expand (String.singleton c))
    (hd : t.expand (String.singleton d) = u.expand (String.singleton d)) : t = u := by
  rw [← String.toList_inj, toList_expand_singleton, toList_expand_singleton] at hc hd
  obtain ⟨hbefore, hafter⟩ := parts_of_both hne hc hd
  rw [String.toList_inj] at hbefore hafter
  exact congrArg₂ Template.mk hbefore hafter

theorem eq_iff_expand : t = u ↔ ∀ name, t.expand name = u.expand name := by
  refine ⟨fun h _ => by rw [h], fun h => ?_⟩
  have hne : 'a' ≠ 'b' := by decide
  exact eq_of_expand_eq hne (h _) (h _)

/-! ### Two slots in one text -/

/-- Of two slots in a text one is behind the other: they have no character in common. -/
theorem cut_cases {m back back' : List Char} (h : '%' :: 's' :: back = m ++ '%' :: 's' :: back') :
    (m = [] ∧ back = back') ∨ ∃ m', m = '%' :: 's' :: m' ∧ back = m' ++ '%' :: 's' :: back' := by
  rcases m with _ | ⟨c, _ | ⟨c', m⟩⟩
  · exact .inl ⟨rfl, by simpa using h⟩
  · simp at h
  · simp only [List.cons_append, List.cons.injEq] at h
    obtain ⟨rfl, rfl, hback⟩ := h
    exact .inr ⟨m, rfl, hback⟩

/-- Of two cuts of one text at a slot, each leaves the slot of the other in one of its parts,
unless they are the same. -/
theorem eq_or_infix_of_cuts {front back front' back' : List Char}
    (h : front ++ '%' :: 's' :: back = front' ++ '%' :: 's' :: back') :
    (front = front' ∧ back = back') ∨
      ("%s".toList <:+: front' ∧ "%s".toList <:+: back) ∨
      ("%s".toList <:+: front ∧ "%s".toList <:+: back') := by
  simp only [infix_iff]
  rcases List.append_eq_append_iff.mp h with ⟨m, rfl, hm⟩ | ⟨m, rfl, hm⟩
  · rcases cut_cases hm with ⟨rfl, hback⟩ | ⟨m, rfl, hback⟩
    · exact .inl ⟨(List.append_nil front).symm, hback⟩
    · exact .inr (.inl ⟨⟨front, m, rfl⟩, ⟨m, back', hback⟩⟩)
  · rcases cut_cases hm with ⟨rfl, hback⟩ | ⟨m, rfl, hback⟩
    · exact .inl ⟨List.append_nil front', hback.symm⟩
    · exact .inr (.inr ⟨⟨front', m, rfl⟩, ⟨m, back, hback⟩⟩)

/-- Of two templates with the same text, each has the slot of the other in one of its parts,
unless they are the same. -/
theorem eq_or_hasSlot_of_text_eq (h : t.text = u.text) :
    t = u ∨ (HasSlot u.before ∧ HasSlot t.after) ∨ (HasSlot t.before ∧ HasSlot u.after) := by
  rw [← String.toList_inj, toList_text, toList_text] at h
  rcases eq_or_infix_of_cuts h with ⟨hbefore, hafter⟩ | hslots | hslots
  · rw [String.toList_inj] at hbefore hafter
    exact .inl (congrArg₂ Template.mk hbefore hafter)
  · exact .inr (.inl hslots)
  · exact .inr (.inr hslots)

/-- The text tells a template if the slot is the first in both texts, or the last in both. -/
theorem eq_iff_text_eq (h : (¬ HasSlot t.before ∧ ¬ HasSlot u.before) ∨
    (¬ HasSlot t.after ∧ ¬ HasSlot u.after)) : t = u ↔ t.text = u.text := by
  refine ⟨congrArg text, fun htext => ?_⟩
  rcases eq_or_hasSlot_of_text_eq htext with heq | ⟨hbefore, hafter⟩ | ⟨hbefore, hafter⟩
  · exact heq
  · rcases h with ⟨_, hu⟩ | ⟨ht, _⟩
    · exact absurd hbefore hu
    · exact absurd hafter ht
  · rcases h with ⟨ht, _⟩ | ⟨_, hu⟩
    · exact absurd hbefore ht
    · exact absurd hafter hu

/-- A text is that of one template only exactly if it is well formed. -/
theorem forall_eq_iff_wellFormed (t : Template) :
    (∀ u : Template, u.text = t.text → u = t) ↔ WellFormed t.text := by
  constructor
  · intro h
    refine ⟨(t.before, t.after), rfl, fun cut hcut => ?_⟩
    have heq : (⟨cut.1, cut.2⟩ : Template) = t := h ⟨cut.1, cut.2⟩ hcut.symm
    rw [← heq]
  · intro hwell u htext
    have hcuts : (u.before, u.after) = (t.before, t.after) := hwell.unique htext.symm rfl
    obtain ⟨hbefore, hafter⟩ := Prod.mk.inj hcuts
    exact congrArg₂ Template.mk hbefore hafter

theorem exists_other_iff (t : Template) :
    (∃ u : Template, u ≠ t ∧ u.text = t.text) ↔ HasSlot t.before ∨ HasSlot t.after := by
  rw [← not_iff_not, not_or, ← parse_text_eq_ok_iff, ← wellFormed_text_iff,
    ← forall_eq_iff_wellFormed]
  simp only [not_exists, not_and']
  exact forall_congr' fun u => imp_congr_right fun _ => not_not

end Template

/-! ### Search paths -/

namespace SearchPath

variable {p q : SearchPath}

theorem legible_of_parsed (h : ∀ t ∈ p, ∃ text, Template.parse text = .ok t) : p.Legible := by
  intro t ht
  obtain ⟨text, hparse⟩ := h t ht
  rwa [(Template.wellFormed_of_parse hparse).2]

theorem eq_of_texts_eq (hp : p.Legible) (hq : q.Legible) (h : p.texts = q.texts) : p = q := by
  have hread := map_parse_of_reads (reads_texts_iff.mpr hp)
  rw [h, map_parse_of_reads (reads_texts_iff.mpr hq)] at hread
  exact ((List.map_inj_right fun _ _ => Except.ok.inj).mp hread).symm

/-- Two names of one character each tell a search path from all others. -/
theorem eq_of_expand_eq {c d : Char} (hne : c ≠ d)
    (hc : p.expand (String.singleton c) = q.expand (String.singleton c))
    (hd : p.expand (String.singleton d) = q.expand (String.singleton d)) : p = q := by
  induction p generalizing q with
  | nil => exact (List.map_eq_nil_iff.mp hc.symm).symm
  | cons t p ih =>
    cases q with
    | nil => cases hc
    | cons u q =>
      obtain ⟨htc, hpc⟩ := List.cons.inj hc
      obtain ⟨htd, hpd⟩ := List.cons.inj hd
      rw [Template.eq_of_expand_eq hne htc htd, ih hpc hpd]

/-- Where nothing exists, the answer for a bare name is what the search path makes of it. -/
theorem search_absent {name : String} (hname : name.toList.head? ∉ [some '.', some '/']) :
    (Searcher.templates.search (fun _ => false) p name).value = .missing (p.expand name) := by
  have hcandidates : Searcher.templates.candidates p name = p.expand name := by
    rw [Searcher.candidates, Searcher.templateCandidates, if_neg hname, List.nil_append]
    rfl
  have hnone : (p.expand name).find? (fun _ => false) = none := List.find?_eq_none.mpr (by simp)
  have hbuiltin : Searcher.templates.Builtin := trivial
  rw [Searcher.value_search _ hbuiltin, hcandidates, hnone]

theorem eq_iff_search : p = q ↔ ∀ present name,
    Searcher.templates.search present p name = Searcher.templates.search present q name := by
  refine ⟨fun h _ _ => by rw [h], fun h => ?_⟩
  have hexpand (name : String) (hname : name.toList.head? ∉ [some '.', some '/']) :
      p.expand name = q.expand name := by
    have hvalue := congrArg Traced.value (h (fun _ => false) name)
    rwa [search_absent hname, search_absent hname, Answer.missing.injEq] at hvalue
  have hne : 'a' ≠ 'b' := by decide
  exact eq_of_expand_eq hne (hexpand _ (by decide)) (hexpand _ (by decide))

end SearchPath

/-! ### Equality, behaviour and text -/

namespace Template

/-- Templates are equal exactly if they make the same of every name. If neither has a `%s` before
its slot, or neither has one behind it, they are equal exactly if they are written in the same
way; and a template with a `%s` before or behind its slot is written as another one is. So
search paths of templates that were read are written in the same way exactly if they are
searched in the same way, whatever the name is and whichever paths exist. -/
theorem beq_iff_alike :
    (∀ t u : Template, t == u ↔ ∀ name, t.expand name = u.expand name) ∧
    (∀ t u : Template,
      (¬ HasSlot t.before ∧ ¬ HasSlot u.before) ∨ (¬ HasSlot t.after ∧ ¬ HasSlot u.after) →
      (t == u ↔ t.text = u.text)) ∧
    (∀ t : Template, (∃ u : Template, u != t ∧ u.text = t.text) ↔
      HasSlot t.before ∨ HasSlot t.after) ∧
    ∀ p q : SearchPath, (∀ t ∈ p, ∃ text, parse text = .ok t) →
      (∀ t ∈ q, ∃ text, parse text = .ok t) →
      (p.texts = q.texts ↔ ∀ present name,
        Searcher.templates.search present p name = Searcher.templates.search present q name) := by
  refine ⟨fun t u => ?_, fun t u h => ?_, fun t => ?_, fun p q hp hq => ?_⟩
  · rw [beq_iff_eq, eq_iff_expand]
  · rw [beq_iff_eq, eq_iff_text_eq h]
  · simp only [bne_iff_ne, exists_other_iff]
  · rw [← SearchPath.eq_iff_search]
    exact ⟨SearchPath.eq_of_texts_eq (SearchPath.legible_of_parsed hp)
      (SearchPath.legible_of_parsed hq), congrArg SearchPath.texts⟩

/-- Two templates with a `%s` behind the slot and none before it are told apart by their texts,
though there is another one with the text of the first. The order of two templates shows in
some search. -/
theorem beq_iff_alike_several_slots :
    let t : Template := ⟨"%", "s%s"⟩
    let u : Template := ⟨"", "%ss%s"⟩
    let p : SearchPath := [⟨"%", "s"⟩, ⟨"./", ""⟩]
    (¬ HasSlot t.before ∧ ¬ HasSlot u.before) ∧ HasSlot t.after ∧
      (∀ v ∈ p, ∃ text, parse text = .ok v) ∧ (∀ v ∈ p.reverse, ∃ text, parse text = .ok v) ∧
      (t == u) = false ∧ t.text ≠ u.text ∧ (∃ v : Template, v != t ∧ v.text = t.text) ∧
      ¬ ∀ present name, Searcher.templates.search present p name =
        Searcher.templates.search present p.reverse name := by
  intro t u p
  have hfree : ¬ HasSlot t.before ∧ ¬ HasSlot u.before := by decide
  have hslot : HasSlot t.after := by decide
  have hread : ∀ v ∈ p, parse v.text = .ok v := by decide
  have hparsed : ∀ v ∈ p, ∃ text, parse text = .ok v := fun v hv => ⟨v.text, hread v hv⟩
  have hreversed : ∀ v ∈ p.reverse, ∃ text, parse text = .ok v := fun v hv =>
    hparsed v (List.mem_reverse.mp hv)
  obtain ⟨_, htext, hother, hsearch⟩ := beq_iff_alike
  have hne : (t == u) = false := by decide
  refine ⟨hfree, hslot, hparsed, hreversed, hne, ?_, (hother t).mpr (.inr hslot), ?_⟩
  · rw [Ne, ← htext t u (.inl hfree), hne]
    exact Bool.false_ne_true
  · rw [← hsearch p p.reverse hparsed hreversed]
    decide

end Template

end ScriptSearch
