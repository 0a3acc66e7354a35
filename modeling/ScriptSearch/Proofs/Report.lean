import ScriptSearch.Resolution
import ScriptSearch.Proofs.Text.Pieces

/-! What a report of a search in vain tells. It has one line for the name and one line for each
path that was tried, so as long as no name and no path breaks a line, both are found again in
its text, whatever else stands in them. Under another label only the start of the first line
is another. -/

namespace ScriptSearch

/-- The paths that were tried, without the searchers that tried them. -/
def Exhausted.paths (e : Exhausted) : List String := e.attempts.map Attempt.path

/-- Neither the name nor a path that was tried has a line break. -/
structure Exhausted.Unbroken (e : Exhausted) : Prop where
  name : '\n' ∉ e.name.toList
  paths : ∀ path ∈ e.paths, '\n' ∉ path.toList

namespace Report

variable {label : String} {e e' : Exhausted}

/-! ### The lines of a report -/

/-- The first line, without its end. -/
def nameLine (label name : String) : String :=
  label ++ ": error: no script called '" ++ name ++ "'"

def pathLine (path : String) : String := "\tno file '" ++ path ++ "'"

/-- The lines of the report of a search in vain, without their ends. -/
def lines (label : String) (e : Exhausted) : List String :=
  nameLine label e.name :: e.paths.map pathLine

theorem nameLine_append (label name rest : String) :
    label ++ ": error: no script called '" ++ name ++ "'\n" ++ rest =
      nameLine label name ++ "\n" ++ rest := by
  rw [← String.toList_inj]
  simp [nameLine]

theorem attemptLine_eq (a : Attempt) : attemptLine a = pathLine a.path ++ "\n" := by
  rw [← String.toList_inj]
  simp [attemptLine, pathLine]

theorem text_eq_join (label : String) (e : Exhausted) :
    (notFound label e).text = String.join ((lines label e).map (· ++ "\n")) := by
  have hattempts : e.attempts.map attemptLine = (e.paths.map pathLine).map (· ++ "\n") := by
    rw [Exhausted.paths, List.map_map, List.map_map]
    exact List.map_congr_left fun a _ => attemptLine_eq a
  rw [text, hattempts, nameLine_append, lines, List.map_cons, String.join_cons]

theorem not_mem_nameLine {name : String} (hlabel : '\n' ∉ label.toList)
    (hname : '\n' ∉ name.toList) : '\n' ∉ (nameLine label name).toList := by
  simp [nameLine, hlabel, hname]

theorem not_mem_pathLine {path : String} (hpath : '\n' ∉ path.toList) :
    '\n' ∉ (pathLine path).toList := by
  simp [pathLine, hpath]

/-- The lines of the text are those of the report. -/
theorem split_text (hlabel : '\n' ∉ label.toList) (he : e.Unbroken) :
    Text.split '\n' (notFound label e).text = lines label e ++ [""] := by
  rw [text_eq_join, Text.split_lines]
  refine List.forall_mem_cons.mpr ⟨not_mem_nameLine hlabel he.name, ?_⟩
  exact List.forall_mem_map.mpr fun path hpath => not_mem_pathLine (he.paths path hpath)

theorem count_text (hlabel : '\n' ∉ label.toList) (he : e.Unbroken) :
    (notFound label e).text.toList.count '\n' = e.attempts.length + 1 := by
  have hlength := Text.length_split '\n' (notFound label e).text
  rw [split_text hlabel he] at hlength
  simpa [lines, Exhausted.paths] using hlength.symm

/-! ### What the lines tell -/

theorem nameLine_inj {name name' : String} :
    nameLine label name = nameLine label name' ↔ name = name' := by
  unfold nameLine
  rw [String.append_left_inj, String.append_right_inj]

theorem pathLine_inj {path path' : String} : pathLine path = pathLine path' ↔ path = path' := by
  unfold pathLine
  rw [String.append_left_inj, String.append_right_inj]

theorem lines_eq_iff (label : String) :
    lines label e = lines label e' ↔ e.name = e'.name ∧ e.paths = e'.paths := by
  rw [lines, lines, List.cons_eq_cons, nameLine_inj,
    List.map_inj_right fun _ _ => pathLine_inj.mp]

theorem text_eq_iff (hlabel : '\n' ∉ label.toList) (he : e.Unbroken) (he' : e'.Unbroken) :
    (notFound label e).text = (notFound label e').text ↔
      e.name = e'.name ∧ e.paths = e'.paths := by
  rw [← lines_eq_iff label]
  constructor
  · intro h
    have hsplit := split_text hlabel he
    rw [h, split_text hlabel he'] at hsplit
    exact (List.append_cancel_right hsplit).symm
  · intro h
    rw [text_eq_join, text_eq_join, h]

/-- The label is the start of the first line and shows nowhere else. -/
theorem exists_text_eq (he : e.Unbroken) :
    ∃ start rest, '\n' ∉ start.toList ∧
      ∀ label, (notFound label e).text = label ++ start ++ "\n" ++ rest := by
  refine ⟨nameLine "" e.name, String.join ((e.paths.map pathLine).map (· ++ "\n")),
    not_mem_nameLine (by decide) he.name, fun label => ?_⟩
  rw [text_eq_join, lines, List.map_cons, String.join_cons, ← String.toList_inj]
  simp [nameLine]

/-- Reports under one label on two searches in vain are the same text exactly if the name and
the paths that were tried are the same, whoever tried them and whatever stands in them but a
line break. The lines of the text are one for the name and one for each path, and the label is
the start of the first line and nothing else. -/
theorem text_lines {label : String} (hlabel : '\n' ∉ label.toList) :
    (∀ e e' : Exhausted, e.Unbroken → e'.Unbroken →
      ((notFound label e).text = (notFound label e').text ↔
        e.name = e'.name ∧ e.attempts.map Attempt.path = e'.attempts.map Attempt.path)) ∧
    (∀ e : Exhausted, e.Unbroken →
      Text.split '\n' (notFound label e).text =
        (label ++ ": error: no script called '" ++ e.name ++ "'") ::
          (e.attempts.map fun a => "\tno file '" ++ a.path ++ "'") ++ [""] ∧
      (notFound label e).text.toList.count '\n' = e.attempts.length + 1) ∧
    ∀ e : Exhausted, e.Unbroken → ∃ start rest, '\n' ∉ start.toList ∧
      ∀ label', (notFound label' e).text = label' ++ start ++ "\n" ++ rest := by
  refine ⟨fun e e' he he' => text_eq_iff hlabel he he', fun e he => ⟨?_, count_text hlabel he⟩,
    fun e he => exists_text_eq he⟩
  rw [split_text hlabel he, lines, Exhausted.paths, List.map_map]
  rfl

/-- A path that has the text between two lines of a report in it, quotes included, is told
from the two paths around that text; the searchers are not told apart. -/
theorem text_lines_look_alikes :
    let inner : Exhausted := ⟨"{}'", [⟨"default", "a'\tno file 'b"⟩]⟩
    let other : Exhausted := ⟨"{}'", [⟨"path", "a'\tno file 'b"⟩]⟩
    let outer : Exhausted := ⟨"{}'", [⟨"default", "a"⟩, ⟨"default", "b"⟩]⟩
    '\n' ∉ "source".toList ∧ inner.Unbroken ∧ other.Unbroken ∧ outer.Unbroken ∧
      (notFound "source" inner).text = (notFound "source" other).text ∧
      (notFound "source" inner).text ≠ (notFound "source" outer).text ∧
      (notFound "source" outer).text.toList.count '\n' = 3 := by
  intro inner other outer
  have hlabel : '\n' ∉ "source".toList := by decide
  have hinner : inner.Unbroken := ⟨by decide, by decide⟩
  have hother : other.Unbroken := ⟨by decide, by decide⟩
  have houter : outer.Unbroken := ⟨by decide, by decide⟩
  obtain ⟨hiff, hlines, _⟩ := text_lines hlabel
  refine ⟨hlabel, hinner, hother, houter, (hiff inner other hinner hother).mpr ⟨rfl, rfl⟩, ?_,
    (hlines outer houter).2⟩
  rw [Ne, hiff inner outer hinner houter]
  decide

/-- With a line break in it a name can tell of a path that was not tried. -/
example :
    (notFound "source" ⟨"a'\n\tno file 'b", []⟩).text =
      (notFound "source" ⟨"a", [⟨"default", "b"⟩]⟩).text := by decide

end Report

end ScriptSearch
