import ScriptSearch.Proofs.Configuration
import ScriptSearch.Proofs.SearchPath
import ScriptSearch.Proofs.Text.Split

/-! The list form of a search path, with `:` between the texts of its templates. It is read
back as the same search path exactly if no part of a template has a slot or a `:`. The list
form of a search path that was read from a list is that list without its empty elements, and
reading it once more changes nothing. -/

namespace ScriptSearch

theorem Template.colon_mem_text_iff (t : Template) :
    ':' ∈ t.text.toList ↔ ':' ∈ t.before.toList ∨ ':' ∈ t.after.toList := by
  simp [Template.toList_text]

theorem Template.text_ne_empty (t : Template) : t.text ≠ "" := by
  rw [Ne, ← String.toList_inj, toList_text]
  simp

namespace SearchPath

variable {path : SearchPath}

/-- The elements of the list form are the texts of the templates unless one has a `:`. -/
theorem elements_text_iff (path : SearchPath) :
    Text.elements path.text = path.texts ↔ ∀ t ∈ path, ':' ∉ t.text.toList := by
  constructor
  · intro h t ht
    have hmem : t.text ∈ Text.elements path.text := by
      rw [h]
      exact List.mem_map_of_mem ht
    exact (Text.mem_elements hmem).2
  · intro h
    refine Text.elements_join fun piece hpiece => ?_
    obtain ⟨t, ht, rfl⟩ := List.mem_map.mp hpiece
    exact ⟨t.text_ne_empty, h t ht⟩

/-- Both the texts and the places between them have to be found again. -/
theorem parse_text_eq_ok_iff (path : SearchPath) :
    parse path.text = .ok path ↔ path.Legible ∧ ∀ t ∈ path, ':' ∉ t.text.toList := by
  rw [parse_eq_ok_iff, ← elements_text_iff, ← reads_texts_iff]
  constructor
  · intro h
    have htexts : Text.elements path.text = path.texts := (texts_of_reads h).symm
    exact ⟨htexts ▸ h, htexts⟩
  · rintro ⟨hreads, htexts⟩
    rwa [htexts]

theorem parse_text_ofHome_iff (home : String) :
    parse (ofHome home).text = .ok (ofHome home) ↔
      ¬ Template.HasSlot home ∧ ':' ∉ home.toList := by
  rw [parse_text_eq_ok_iff, legible_ofHome_iff]
  simp only [Template.colon_mem_text_iff, not_or]
  exact and_congr_right fun _ =>
    forall_parts_ofHome (':' ∉ ·.toList) home (by simp) (by decide) (by decide)

/-- The list form of what was read has the elements that were read. -/
theorem text_of_parse {list : String} (h : parse list = .ok path) :
    path.text = Text.join ':' (Text.elements list) := by
  rw [SearchPath.text, texts_of_reads (reads_of_parse h)]

/-- A resolver that is set up from a list alone has the search path that the list is read as. -/
theorem searchPath_configure_list {lookup : Environment} {o : Options} {list : String}
    (hlist : lookup "SOURCE_PATH" = some list) (hd : o.defaultPath = true)
    (ht : o.templates = []) (r : Resolver) (hpath : path ≠ []) :
    (r.configure lookup o).value.resolver.searchPath = path ↔ parse list = .ok path := by
  have hbase : (Resolver.basePath lookup o).value = parse list := by
    simp [Resolver.basePath, hd, hlist]
  cases hparse : parse list with
  | error e =>
    rw [Resolver.configure_of_base_error r (hbase.trans hparse)]
    refine iff_of_false hpath.symm fun h => ?_
    cases h
  | ok read =>
    rw [Resolver.configure_of_templates_ok r (hbase.trans hparse) (by rw [ht, appendTexts_nil]),
      Except.ok.injEq]

/-- Reading a list form gives back the search path exactly if neither part of any template has
a slot or a `:`. So the default search path comes back from `SOURCE_PATH` unless the home
directory has one of them. The other way round, what was read from a list is written as the
elements of the list that are not empty, and read from that again. -/
theorem parse_text_roundTrip :
    (∀ path : SearchPath, parse path.text = .ok path ↔
      ∀ t ∈ path, (¬ Template.HasSlot t.before ∧ ':' ∉ t.before.toList) ∧
        ¬ Template.HasSlot t.after ∧ ':' ∉ t.after.toList) ∧
    (∀ home : String,
      (parse (ofHome home).text = .ok (ofHome home) ↔
        ¬ Template.HasSlot home ∧ ':' ∉ home.toList) ∧
      ∀ (lookup : Environment) (o : Options) (r : Resolver),
        let exported : Environment :=
          Function.update lookup "SOURCE_PATH" (some (ofHome home).text)
        let c := r.configure exported { o with defaultPath := true, templates := [] }
        c.value.resolver.searchPath = ofHome home ↔
          ¬ Template.HasSlot home ∧ ':' ∉ home.toList) ∧
    ∀ (list : String) (path : SearchPath), parse list = .ok path →
      path.text = Text.join ':' ((Text.split ':' list).filter (· ≠ "")) ∧
      parse path.text = .ok path := by
  refine ⟨fun path => ?_, fun home => ⟨parse_text_ofHome_iff home, ?_⟩, ?_⟩
  · rw [parse_text_eq_ok_iff, Legible, ← forall₂_and]
    refine forall₂_congr fun t _ => ?_
    rw [Template.parse_text_eq_ok_iff, Template.colon_mem_text_iff, not_or, and_and_and_comm]
  · intro lookup o r exported c
    have hlist : exported "SOURCE_PATH" = some (ofHome home).text := Function.update_self _ _ _
    have hpath : ofHome home ≠ [] := List.cons_ne_nil _ _
    rw [← parse_text_ofHome_iff, ← searchPath_configure_list hlist ?_ ?_ r hpath]
    · rfl
    · rfl
  · intro list path h
    refine ⟨text_of_parse h, ?_⟩
    have helements : Text.elements path.text = Text.elements list := by
      rw [text_of_parse h]
      exact Text.elements_join fun piece hpiece => Text.mem_elements hpiece
    rw [parse_eq_ok_iff, helements]
    exact reads_of_parse h

/-- A list with empty elements and with one element twice is read, and written without the
empty ones. -/
theorem parse_text_roundTrip_repeated :
    let list := ":a/%s::b%/%s.sh:a/%s:"
    let path : SearchPath := [⟨"a/", ""⟩, ⟨"b%/", ".sh"⟩, ⟨"a/", ""⟩]
    parse list = .ok path ∧ path.text = "a/%s:b%/%s.sh:a/%s" ∧ parse path.text = .ok path := by
  intro list path
  have hparse : parse list = .ok path := by decide
  obtain ⟨htext, hagain⟩ := parse_text_roundTrip.2.2 list path hparse
  exact ⟨hparse, htext.trans (by decide), hagain⟩

/-- One template with a `:` between two slots is read as two templates. -/
example : parse (text [⟨"a/%s:b/", ""⟩]) = .ok [⟨"a/", ""⟩, ⟨"b/", ""⟩] := by decide

end SearchPath

end ScriptSearch
