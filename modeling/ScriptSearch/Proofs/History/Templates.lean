import ScriptSearch.Proofs.Configuration.Exits
import ScriptSearch.Proofs.History

/-! The search path of a resolver through a run of operations. Templates come in by two ways:
they are read from texts, or they are put together from the home directory. As long as no
slot comes in with a home directory, every template of the search path is what its own text
is read as, whatever operations fail on the way. -/

namespace ScriptSearch

namespace SearchPath

variable {texts : List String} {path : SearchPath} {e : TemplateError}

/-- Such a template is written with exactly one slot. -/
theorem legible_iff : path.Legible ↔
    ∀ t ∈ path, Template.parse t.text = .ok t ∧ Template.WellFormed t.text := by
  simp only [Legible, Template.wellFormed_text_iff, and_self]

theorem StopsAt.legible (h : StopsAt texts path e) : path.Legible := by
  obtain ⟨_, _, _, hreads, _⟩ := h
  exact legible_of_reads hreads

/-- A path stays legible as it is extended, also up to a malformed text. -/
theorem legible_appendTexts (h : path.Legible) (texts : List String) :
    Legible (path.appendTexts texts).1 := by
  rcases reads_or_stopsAt texts with ⟨more, hreads⟩ | ⟨more, e, hstops⟩
  · rw [appendTexts_of_reads hreads]
    exact legible_append_iff.mpr ⟨h, legible_of_reads hreads⟩
  · rw [appendTexts_of_stopsAt hstops]
    exact legible_append_iff.mpr ⟨h, hstops.legible⟩

end SearchPath

namespace Resolver

/-! ### Set-up -/

section SetUp

variable {lookup : Environment} {o : Options}

/-- A home directory that is not set brings in no slot. -/
theorem hasSlot_home_iff (lookup : Environment) :
    ¬ Template.HasSlot ((lookup "HOME").getD "") ↔
      ∀ home, lookup "HOME" = some home → ¬ Template.HasSlot home := by
  cases lookup "HOME" with
  | none => exact iff_of_true (by decide) nofun
  | some home => simp

/-- Only the default search path can have a template that is not read back. -/
theorem legible_basePath_iff {base : SearchPath} (h : (basePath lookup o).value = .ok base) :
    base.Legible ↔ o.defaultPath = false ∨ (∃ list, lookup "SOURCE_PATH" = some list) ∨
      ∀ home, lookup "HOME" = some home → ¬ Template.HasSlot home := by
  rcases basePath_value_ok h with ⟨hd, rfl⟩ | ⟨hd, list, hlist, hreads⟩ | ⟨hd, hlist, rfl⟩
  · exact iff_of_true SearchPath.legible_nil (.inl hd)
  · exact iff_of_true (SearchPath.legible_of_reads hreads) (.inr (.inl ⟨list, hlist⟩))
  · rw [SearchPath.legible_ofHome_iff, hasSlot_home_iff]
    simp [hd, hlist]

/-- Whether it succeeds or not, a set-up leaves a legible search path, if there is no slot in
the home directory. -/
theorem legible_configure (hhome : ∀ home, lookup "HOME" = some home → ¬ Template.HasSlot home)
    (r : Resolver) : (r.configure lookup o).value.resolver.searchPath.Legible := by
  cases hbase : (basePath lookup o).value with
  | error e =>
    rw [configure_of_base_error r hbase]
    exact SearchPath.legible_nil
  | ok base =>
    have hpath : SearchPath.Legible (base.appendTexts o.templates).1 :=
      SearchPath.legible_appendTexts
        ((legible_basePath_iff hbase).mpr (.inr (.inr hhome))) o.templates
    rcases happ : base.appendTexts o.templates with ⟨path, _ | e⟩
    · rw [happ] at hpath
      rw [configure_of_templates_ok r hbase happ]
      exact hpath
    · rw [happ] at hpath
      rw [configure_of_templates_error r hbase happ]
      exact hpath

/-- After a set-up that succeeds the search path is as legible as its base. -/
theorem legible_configure_iff {r : Resolver} (h : (r.configure lookup o).value.error? = none) :
    (r.configure lookup o).value.resolver.searchPath.Legible ↔
      o.defaultPath = false ∨ (∃ list, lookup "SOURCE_PATH" = some list) ∨
        ∀ home, lookup "HOME" = some home → ¬ Template.HasSlot home := by
  obtain ⟨base, more, hbase, hmore, hconfigure⟩ := configure_of_ok h
  rw [hconfigure, ← legible_basePath_iff hbase]
  exact SearchPath.legible_append_iff.trans
    (and_iff_left (SearchPath.legible_of_reads hmore))

end SetUp

/-! ### One operation -/

variable {w : World} {r : Resolver}

/-- Templates come in from texts that are read, and home directories without a slot. -/
def Operation.FromTexts (w : World) : Operation → Prop
  | appendTemplate t | prepend t => ∃ text, Template.parse text = .ok t
  | setHome home => ¬ Template.HasSlot home
  | configure _ => ∀ home, w.lookup "HOME" = some home → ¬ Template.HasSlot home
  | _ => True

theorem legible_replacePath {read : Except TemplateError SearchPath} (hr : r.searchPath.Legible)
    (hread : ∀ path, read = .ok path → path.Legible) :
    (r.replacePath read).value.2.searchPath.Legible := by
  cases read with
  | ok path => exact hread path rfl
  | error e => exact hr

theorem legible_singleton {text : String} {t : Template} (h : Template.parse text = .ok t) :
    SearchPath.Legible [t] :=
  SearchPath.legible_of_reads (.cons h .nil)

theorem legible_perform {op : Operation} (hr : r.searchPath.Legible) (hop : op.FromTexts w) :
    (r.perform w op).value.2.searchPath.Legible := by
  cases op with
  | append text =>
    refine legible_replacePath hr fun path hpath => ?_
    cases hparse : Template.parse text with
    | error e =>
      rw [hparse] at hpath
      cases hpath
    | ok t =>
      rw [hparse] at hpath
      cases hpath
      exact SearchPath.legible_append_iff.mpr ⟨hr, legible_singleton hparse⟩
  | appendTemplate t =>
    obtain ⟨text, hparse⟩ := hop
    exact SearchPath.legible_append_iff.mpr ⟨hr, legible_singleton hparse⟩
  | prepend t =>
    obtain ⟨text, hparse⟩ := hop
    exact SearchPath.legible_append_iff.mpr ⟨legible_singleton hparse, hr⟩
  | clear => exact SearchPath.legible_nil
  | setHome home => exact (SearchPath.legible_ofHome_iff home).mpr hop
  | setList list =>
    exact legible_replacePath hr fun path hpath =>
      SearchPath.legible_of_reads (SearchPath.reads_of_parse hpath)
  | configure o => exact legible_configure hop r
  | size | add _ | remove _ | resolve _ | dispatch _ _ | source _ _ _ => exact hr

/-! ### Refused texts -/

/-- A search path that cannot be read is not taken. -/
theorem replacePath_refused (r : Resolver) (read : Except TemplateError SearchPath) :
    let replaced := (r.replacePath read).value
    (replaced.1 = .flag false ↔ ∀ path, read ≠ .ok path) ∧
      (replaced.1 = .flag false → replaced.2 = r) := by
  cases read with
  | ok path => simp [replacePath]
  | error e => simp [replacePath]

theorem append_refused (w : World) (r : Resolver) (text : String) :
    let performed := (r.perform w (.append text)).value
    (performed.1 = .flag false ↔ ¬ Template.WellFormed text) ∧
      (performed.1 = .flag false → performed.2 = r) := by
  intro performed
  obtain ⟨hrefused, hsame⟩ :=
    r.replacePath_refused ((Template.parse text).map fun t => r.searchPath ++ [t])
  refine ⟨hrefused.trans ?_, hsame⟩
  rw [← Template.exists_parse_ok_iff, not_exists]
  cases Template.parse text with
  | error e => exact iff_of_true nofun nofun
  | ok t => exact iff_of_false (fun h => h _ rfl) fun h => h t rfl

theorem setList_refused (w : World) (r : Resolver) (list : String) :
    let performed := (r.perform w (.setList list)).value
    (performed.1 = .flag false ↔ ¬ ∀ text ∈ Text.elements list, Template.WellFormed text) ∧
      (performed.1 = .flag false → performed.2 = r) := by
  intro performed
  obtain ⟨hrefused, hsame⟩ := r.replacePath_refused (SearchPath.parse list)
  refine ⟨hrefused.trans ?_, hsame⟩
  rcases SearchPath.reads_or_stopsAt (Text.elements list) with
    ⟨path, hreads⟩ | ⟨path, e, hstops⟩
  · exact iff_of_false (fun h => h path (SearchPath.parse_of_reads hreads))
      fun h => h (SearchPath.wellFormed_of_reads hreads)
  · refine iff_of_true (fun path => ?_) hstops.not_wellFormed
    rw [SearchPath.parse_of_stopsAt hstops]
    exact nofun

/-! ### All runs -/

theorem legible_performAll {h : History} (hr : r.searchPath.Legible)
    {steps : List (World × Operation)} (hsteps : ∀ step ∈ steps, step.2.FromTexts step.1) :
    (r.performAll h steps).1.searchPath.Legible := by
  induction steps generalizing r h with
  | nil => exact hr
  | cons step rest ih =>
    obtain ⟨hstep, hrest⟩ := List.forall_mem_cons.mp hsteps
    exact ih (legible_perform hr hstep) hrest

/-- After any run of operations on a new resolver in which templates come from texts and home
directories have no slot, every template of the search path is what its text is read as, so
that its text has exactly one slot. A malformed text or list fails to be added and changes
nothing. After a set-up that succeeds this holds exactly if the default search path was not
asked for, or was replaced by a list, or is under a home directory without a slot. -/
theorem performAll_legible :
    (∀ steps : List (World × Operation), (∀ step ∈ steps, step.2.FromTexts step.1) →
      ∀ t ∈ ((ofSearchPath []).performAll {} steps).1.searchPath,
        Template.parse t.text = .ok t ∧ Template.WellFormed t.text) ∧
    (∀ (w : World) (r : Resolver) (text : String),
      let performed := (r.perform w (.append text)).value
      (performed.1 = .flag false ↔ ¬ Template.WellFormed text) ∧
        (performed.1 = .flag false → performed.2 = r)) ∧
    (∀ (w : World) (r : Resolver) (list : String),
      let performed := (r.perform w (.setList list)).value
      (performed.1 = .flag false ↔
          ¬ ∀ text ∈ (Text.split ':' list).filter (· ≠ ""), Template.WellFormed text) ∧
        (performed.1 = .flag false → performed.2 = r)) ∧
    ∀ (lookup : Environment) (o : Options) (r : Resolver),
      (r.configure lookup o).value.error? = none →
      ((∀ t ∈ (r.configure lookup o).value.resolver.searchPath,
          Template.parse t.text = .ok t ∧ Template.WellFormed t.text) ↔
        o.defaultPath = false ∨ (∃ list, lookup "SOURCE_PATH" = some list) ∨
          ∀ home, lookup "HOME" = some home → ¬ Template.HasSlot home) := by
  simp only [← SearchPath.legible_iff]
  exact ⟨fun steps hsteps => legible_performAll SearchPath.legible_nil hsteps,
    append_refused, setList_refused, fun lookup o r h => legible_configure_iff h⟩

/-- A run with a refused text, a refused list and two set-ups that fail, the second of them
with templates already in place. Under a home directory with a slot a set-up succeeds, and its
search path is not read back. -/
theorem performAll_legible_half_done :
    let world (home : String) (list : Option String) : World :=
      ⟨fun _ => false, fun v => if v = "HOME" then some home else
        if v = "SOURCE_PATH" then list else none, fun _ => .ok ⟨.error .noEntry, none⟩, false⟩
    let w := world "/h%" none
    let steps : List (World × Operation) :=
      [(w, .append "x/%s"), (w, .append "%s/%s"), (world "/h" (some "a/%s:bad"), .configure {}),
        (w, .configure { templates := ["l/%s", "bad"] }), (w, .setList "a/%s:b"),
        (w, .prepend ⟨"y/", ""⟩)]
    let r := ((ofSearchPath []).performAll {} steps).1
    let c := (r.configure (world "/a%s" none).lookup {}).value
    (∀ step ∈ steps, step.2.FromTexts step.1) ∧
      r.searchPath = ⟨"y/", ""⟩ :: SearchPath.ofHome "/h%" ++ [⟨"l/", ""⟩] ∧
      (∀ t ∈ r.searchPath, Template.parse t.text = .ok t ∧ Template.WellFormed t.text) ∧
      c.error? = none ∧ ¬ ∀ t ∈ c.resolver.searchPath,
        Template.parse t.text = .ok t ∧ Template.WellFormed t.text := by
  intro world w steps r c
  have hhome (home : String) (list : Option String) (hfree : ¬ Template.HasSlot home) :
      ∀ home', (world home list).lookup "HOME" = some home' → ¬ Template.HasSlot home' := by
    intro home' h
    obtain rfl : home = home' := Option.some.inj h
    exact hfree
  have hsteps : ∀ step ∈ steps, step.2.FromTexts step.1 := by
    simp only [steps, List.forall_mem_cons, List.not_mem_nil, false_implies, implies_true, and_true]
    exact ⟨trivial, trivial, hhome "/h" _ (by decide), hhome "/h%" none (by decide), trivial,
      "y/%s", by decide⟩
  obtain ⟨hlegible, _, _, hconfigure⟩ := performAll_legible
  have hok : c.error? = none := rfl
  refine ⟨hsteps, by decide, hlegible steps hsteps, hok, ?_⟩
  rw [hconfigure (world "/a%s" none).lookup {} r hok]
  rintro (hd | ⟨list, hlist⟩ | hfree)
  · cases hd
  · cases hlist
  · exact hfree "/a%s" rfl (by decide)

end Resolver

end ScriptSearch
