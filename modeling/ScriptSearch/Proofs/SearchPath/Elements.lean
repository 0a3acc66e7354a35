import ScriptSearch.Operation
import ScriptSearch.Proofs.SearchPath
import ScriptSearch.Proofs.Search.FirstMatch
import ScriptSearch.Proofs.Template.Position

/-! The elements of a written list, one by one. A list is read if a slot stands at one position
of each of its elements, and is then read element by element. Otherwise the first element of
which this does not hold decides the error, and what follows it is never looked at. -/

namespace ScriptSearch

namespace TemplateError

theorem message_noSlot (text : String) :
    (noSlot text).message = "search path `" ++ text ++ "` has no `%s` slot" := by
  rw [← String.toList_inj]
  simp [message, Text.quoted]

theorem message_manySlots (text : String) :
    (manySlots text).message = "search path `" ++ text ++ "` has more than one `%s` slot" := by
  rw [← String.toList_inj]
  simp [message, Text.quoted]

end TemplateError

namespace SearchPath

variable {texts front back : List String} {bad : String} {path : SearchPath} {e : TemplateError}

/-! ### Texts that are read -/

theorem reads_of_wellFormed (h : ∀ text ∈ texts, Template.WellFormed text) :
    ∃ path, Reads texts path := by
  rcases reads_or_stopsAt texts with hreads | ⟨path, e, hstops⟩
  · exact hreads
  · exact absurd h hstops.not_wellFormed

theorem map_parse_of_reads (h : Reads texts path) :
    texts.map Template.parse = path.map Except.ok := by
  rw [← List.forall₂_eq_eq_eq, List.forall₂_map_left_iff, List.forall₂_map_right_iff]
  exact h

/-- The name stands in the place of the slot of each text. -/
theorem forall₂_expand_of_reads (h : Reads texts path) (name : String) :
    List.Forall₂
      (fun text candidate => ∃ i, Template.SlotAt text i ∧ candidate = Template.fillAt name text i)
      texts (path.expand name) := by
  rw [expand, List.forall₂_map_right_iff]
  refine h.imp fun text t hparse => ?_
  obtain ⟨i, hi, _⟩ := (Template.exists_parse_ok_iff_slotAt text).mp ⟨t, hparse⟩
  exact ⟨i, hi, Template.expand_of_parse hparse hi name⟩

/-! ### The first text that is refused -/

/-- Texts that are read before it, and texts behind it, do not change what is said of the first
text that is refused. -/
theorem stopsAt_of_error (hfront : ∀ text ∈ front, Template.WellFormed text)
    (hbad : Template.parse bad = .error e) (back : List String) :
    ∃ path, StopsAt (front ++ bad :: back) path e := by
  obtain ⟨path, hreads⟩ := reads_of_wellFormed hfront
  obtain ⟨_, rfl⟩ := Template.not_wellFormed_of_parse hbad
  exact ⟨path, front, back, rfl, hreads, hbad⟩

theorem parse_of_first_error {list : String} (helements : Text.elements list = front ++ bad :: back)
    (hfront : ∀ text ∈ front, Template.WellFormed text) (hbad : Template.parse bad = .error e) :
    parse list = .error e := by
  obtain ⟨path, hstops⟩ := stopsAt_of_error hfront hbad back
  rw [← helements] at hstops
  exact parse_of_stopsAt hstops

theorem exists_parse_error_iff (list : String) :
    (∃ e, parse list = .error e) ↔ ∃ text ∈ Text.elements list, ¬ Template.WellFormed text := by
  rcases reads_or_stopsAt (Text.elements list) with ⟨path, hreads⟩ | ⟨path, e, hstops⟩
  · have hall := wellFormed_of_reads hreads
    refine iff_of_false (fun ⟨e, he⟩ => ?_) fun ⟨text, htext, hbad⟩ => hbad (hall text htext)
    cases (parse_of_reads hreads).symm.trans he
  · refine iff_of_true ⟨e, parse_of_stopsAt hstops⟩ ?_
    simpa using hstops.not_wellFormed

/-! ### Taking a list -/

section Take

variable {list : String} (w : World) (r : Resolver)

theorem perform_setList_of_error (h : parse list = .error e) :
    r.perform w (.setList list) = ⟨(.flag false, r), [.notice (.badTemplate e)]⟩ := by
  rw [Resolver.perform, h]
  rfl

theorem perform_setList_of_ok (h : parse list = .ok path) :
    r.perform w (.setList list) = ⟨(.flag true, { r with searchPath := path }), []⟩ := by
  rw [Resolver.perform, h]
  rfl

end Take

/-- A list is refused exactly if some element that is not empty does not have a slot at one
position. The first such element is named by the one error that is shown, with what is wrong
with it, and a resolver that was to take the list stays as it is. A list that is not refused is
read without a word: the templates are what the elements are read as, each in its place, and
the templates searcher tries the elements with the name put in the place of the slot. -/
theorem parse_elements (list : String) :
    let elements := (Text.split ':' list).filter (· ≠ "")
    let Refused (e : TemplateError) (message : String) : Prop :=
      parse list = .error e ∧ ∀ (w : World) (r : Resolver),
        (r.perform w (.setList list)).value = (.flag false, r) ∧
        (r.perform w (.setList list)).trace = [.notice (.badTemplate e)] ∧
        ∀ display, (r.perform w (.setList list)).trace.stderr display =
          Level.error.line display message
    ((∃ e, parse list = .error e) ↔
      ∃ element ∈ elements, ¬ ∃! i, Template.SlotAt element i) ∧
    (∀ front bad back, elements = front ++ bad :: back →
      (∀ element ∈ front, ∃! i, Template.SlotAt element i) →
      ((∀ i, ¬ Template.SlotAt bad i) →
        Refused (.noSlot bad) ("search path `" ++ bad ++ "` has no `%s` slot")) ∧
      ((∃ i j, i < j ∧ Template.SlotAt bad i ∧ Template.SlotAt bad j) →
        Refused (.manySlots bad) ("search path `" ++ bad ++ "` has more than one `%s` slot"))) ∧
    ∀ path, parse list = .ok path →
      (∀ (w : World) (r : Resolver), r.perform w (.setList list) =
        ⟨(.flag true, { r with searchPath := path }), []⟩) ∧
      elements.map Template.parse = path.map Except.ok ∧
      ∀ name, ∃ candidates,
        List.Forall₂ (fun element candidate =>
          ∃ i, Template.SlotAt element i ∧ candidate = Template.fillAt name element i)
          elements candidates ∧
        ∀ present, (Searcher.templates.search present path name).value =
          let tried := (if name.toList.head? ∈ [some '.', some '/'] then [name] else []) ++ candidates
          match tried.find? present with
          | some found => .found found
          | none => .missing tried := by
  intro elements Refused
  have hrefused {e : TemplateError} {message : String} (hparse : parse list = .error e)
      (hmessage : e.message = message) : Refused e message := by
    refine ⟨hparse, fun w r => ?_⟩
    rw [perform_setList_of_error w r hparse]
    refine ⟨rfl, rfl, fun display => ?_⟩
    rw [Trace.stderr_cons, Trace.stderr_nil, String.append_empty, ← hmessage]
    rfl
  simp only [Template.existsUnique_slotAt_iff]
  refine ⟨exists_parse_error_iff list, ?_, ?_⟩
  · intro front bad back helements hfront
    constructor
    · intro hnone
      exact hrefused (parse_of_first_error helements hfront (Template.parse_of_no_slot hnone))
        (TemplateError.message_noSlot bad)
    · rintro ⟨i, j, hij, hi, hj⟩
      exact hrefused
        (parse_of_first_error helements hfront (Template.parse_of_many_slots hij hi hj))
        (TemplateError.message_manySlots bad)
  · intro path hparse
    have hreads : Reads elements path := reads_of_parse hparse
    refine ⟨fun w r => perform_setList_of_ok w r hparse, map_parse_of_reads hreads, fun name => ?_⟩
    refine ⟨path.expand name, forall₂_expand_of_reads hreads name, fun present => ?_⟩
    exact Searcher.value_search present (s := .templates) trivial path name

/-- The element without a slot is named, and not the one with two slots behind it. -/
theorem parse_elements_first_of_two :
    let list := ":a/%s::none:%s%s"
    (Text.split ':' list).filter (· ≠ "") = ["a/%s"] ++ "none" :: ["%s%s"] ∧
      parse list = .error (.noSlot "none") ∧
      ∀ (w : World) (r : Resolver) (display : Display),
        (r.perform w (.setList list)).trace.stderr display =
          if display.colorize then
            "\x1b[1;31merror:\x1b[0m search path `none` has no `%s` slot\n"
          else "error: search path `none` has no `%s` slot\n" := by
  intro list
  have helements : (Text.split ':' list).filter (· ≠ "") = ["a/%s"] ++ "none" :: ["%s%s"] := by
    decide
  have hfront : ∀ element ∈ ["a/%s"], ∃! i, Template.SlotAt element i := by
    rw [List.forall_mem_singleton, ← Template.exists_parse_ok_iff_slotAt]
    exact ⟨⟨"a/", ""⟩, by decide⟩
  have hnone : ∀ i, ¬ Template.SlotAt "none" i := by
    rw [← not_exists, ← Template.hasSlot_iff_slotAt]
    decide
  obtain ⟨hparse, hshown⟩ :=
    ((parse_elements list).2.1 ["a/%s"] "none" ["%s%s"] helements hfront).1 hnone
  refine ⟨helements, hparse, fun w r display => ?_⟩
  rw [(hshown w r).2.2 display]
  obtain ⟨verbose, colorize⟩ := display
  cases colorize <;> rfl

end SearchPath

end ScriptSearch
