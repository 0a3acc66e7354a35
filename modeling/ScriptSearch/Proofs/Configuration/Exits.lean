import ScriptSearch.Proofs.Configuration
import ScriptSearch.Proofs.SearchPath

/-! The ways out of a set-up. The texts of the list in `SOURCE_PATH` are read before the
templates of the options, and the first malformed text ends the set-up: in the list it
leaves no search path, among the options the base with the templates before it. The chain
grows only if all texts are read. -/

namespace ScriptSearch.Resolver

variable {lookup : Environment} {o : Options} {base path : SearchPath} {e : TemplateError}

/-! ### The base of the search path -/

/-- The texts that are read before the templates of the options. -/
def listedTexts (lookup : Environment) (o : Options) : List String :=
  if o.defaultPath then
    match lookup "SOURCE_PATH" with
    | some list => (Text.split ':' list).filter (· ≠ "")
    | none => []
  else []

/-- A search path to which the templates of the options are added: the list in `SOURCE_PATH`
as it is read, or the bare name, `.sh` and `.bash` under `HOME` and in the current
directory. -/
def IsBase (lookup : Environment) (o : Options) (base : SearchPath) : Prop :=
  if o.defaultPath then
    match lookup "SOURCE_PATH" with
    | some list => SearchPath.Reads ((Text.split ':' list).filter (· ≠ "")) base
    | none =>
      let scripts := (lookup "HOME").getD "" ++ "/.local/share/bash/"
      base = [⟨scripts, ""⟩, ⟨scripts, ".sh"⟩, ⟨scripts, ".bash"⟩,
        ⟨"./", ""⟩, ⟨"./", ".sh"⟩, ⟨"./", ".bash"⟩]
  else base = []

theorem isBase_or_stopsAt (lookup : Environment) (o : Options) :
    (∃ base, IsBase lookup o base) ∨
      ∃ path e, SearchPath.StopsAt (listedTexts lookup o) path e := by
  unfold IsBase listedTexts
  split
  · cases lookup "SOURCE_PATH" with
    | some list => exact SearchPath.reads_or_stopsAt (Text.elements list)
    | none => exact .inl ⟨_, rfl⟩
  · exact .inl ⟨_, rfl⟩

theorem basePath_of_isBase (h : IsBase lookup o base) : (basePath lookup o).value = .ok base := by
  unfold IsBase at h
  unfold basePath
  split at h
  next hd =>
    rw [if_pos hd]
    cases hl : lookup "SOURCE_PATH" with
    | some list =>
      rw [hl] at h
      exact SearchPath.parse_of_reads h
    | none =>
      rw [hl] at h
      exact congrArg Except.ok h.symm
  next hd =>
    rw [if_neg hd]
    exact congrArg Except.ok h.symm

theorem basePath_of_stopsAt (h : SearchPath.StopsAt (listedTexts lookup o) path e) :
    (basePath lookup o).value = .error e := by
  obtain ⟨front, back, hlisted, hreads, herror⟩ := h
  have hmem : e.text ∈ listedTexts lookup o := by simp [hlisted]
  unfold listedTexts at hlisted hmem
  unfold basePath
  split at hmem
  next hd =>
    rw [if_pos hd] at hlisted ⊢
    cases hl : lookup "SOURCE_PATH" with
    | some list =>
      rw [hl] at hlisted
      exact SearchPath.parse_of_stopsAt ⟨front, back, hlisted, hreads, herror⟩
    | none => simp [hl] at hmem
  next => cases hmem

theorem wellFormed_of_isBase (h : IsBase lookup o base) :
    ∀ text ∈ listedTexts lookup o, Template.WellFormed text := by
  unfold IsBase at h
  unfold listedTexts
  split at h
  next hd =>
    rw [if_pos hd]
    cases hl : lookup "SOURCE_PATH" with
    | some list =>
      rw [hl] at h
      exact SearchPath.wellFormed_of_reads h
    | none => simp
  next hd => simp [hd]

/-- If all texts are well formed, the set-up succeeds. -/
theorem configure_of_wellFormed
    (h : ∀ text ∈ listedTexts lookup o ++ o.templates, Template.WellFormed text) (r : Resolver) :
    ∃ path, r.configure lookup o =
      ⟨{ resolver := ⟨path, r.chain ++ addedSearchers lookup o⟩ }, setupTrace lookup o path⟩ := by
  obtain ⟨hlisted, htemplates⟩ := List.forall_mem_append.mp h
  rcases isBase_or_stopsAt lookup o with ⟨base, hbase⟩ | ⟨path, e, hstops⟩
  · rcases SearchPath.reads_or_stopsAt o.templates with ⟨more, hreads⟩ | ⟨more, e, hstops⟩
    · exact ⟨base ++ more, configure_of_templates_ok r (basePath_of_isBase hbase)
        (SearchPath.appendTexts_of_reads hreads base)⟩
    · exact absurd htemplates hstops.not_wellFormed
  · exact absurd hlisted hstops.not_wellFormed

/-- Otherwise it ends at the first text that is not, whichever list that stands in. -/
theorem configure_of_malformed
    (h : ¬ ∀ text ∈ listedTexts lookup o ++ o.templates, Template.WellFormed text)
    (r : Resolver) :
    ∃ front e back path, listedTexts lookup o ++ o.templates = front ++ e.text :: back ∧
      (∀ text ∈ front, Template.WellFormed text) ∧ ¬ Template.WellFormed e.text ∧
      Template.parse e.text = .error e ∧
      r.configure lookup o =
        ⟨{ resolver := ⟨path, r.chain⟩, error? := some e },
          (basePath lookup o).trace ++ [.notice (.badTemplate e)]⟩ := by
  rcases isBase_or_stopsAt lookup o with ⟨base, hbase⟩ | ⟨path, e, hstops⟩
  · have hlisted := wellFormed_of_isBase hbase
    rcases SearchPath.reads_or_stopsAt o.templates with ⟨more, hreads⟩ | ⟨more, e, hstops⟩
    · exact absurd (List.forall_mem_append.mpr ⟨hlisted, SearchPath.wellFormed_of_reads hreads⟩) h
    · have hconfigure := configure_of_templates_error r (basePath_of_isBase hbase)
        (SearchPath.appendTexts_of_stopsAt hstops base)
      obtain ⟨front, back, htemplates, hreads, herror⟩ := hstops
      refine ⟨listedTexts lookup o ++ front, e, back, base ++ more, ?_, ?_,
        (Template.not_wellFormed_of_parse herror).1, herror, hconfigure⟩
      · rw [htemplates, List.append_assoc]
      · exact List.forall_mem_append.mpr ⟨hlisted, SearchPath.wellFormed_of_reads hreads⟩
  · have hconfigure := configure_of_base_error r (basePath_of_stopsAt hstops)
    obtain ⟨front, back, hfront, hreads, herror⟩ := hstops
    refine ⟨front, e, back ++ o.templates, [], ?_, SearchPath.wellFormed_of_reads hreads,
      (Template.not_wellFormed_of_parse herror).1, herror, hconfigure⟩
    rw [hfront, List.append_assoc, List.cons_append]

/-! ### Errors on the way -/

theorem noticesAt_error_basePath : (basePath lookup o).trace.noticesAt .error = [] := by
  refine Trace.noticesAt_eq_nil fun n hn => ?_
  cases eq_listUsed_of_mem_basePath hn
  decide

theorem noticesAt_error_setupTrace (path : SearchPath) :
    (setupTrace lookup o path).noticesAt .error = [] := by
  have hwarning : (pathWarning lookup o).noticesAt .error = [] := by
    unfold pathWarning
    split <;> rfl
  have hpath : Trace.noticesAt .error (path.map fun t => .notice (.searchPath t)) = [] := by
    refine Trace.noticesAt_eq_nil fun n hn => ?_
    obtain ⟨t, _, ht⟩ := List.mem_map.mp hn
    cases ht
    simp [Notice.level]
  rw [setupTrace, Trace.noticesAt_append, Trace.noticesAt_append, noticesAt_error_basePath,
    hwarning, hpath]
  rfl

/-! ### All ways out -/

/-- A set-up succeeds exactly if all texts that it reads are well formed. The search path is
then the base with the templates of the options, whatever it was before, and the chain has
one searcher more if the directories of `PATH` are asked for. Otherwise the first malformed
text is the one error that is noted, and the chain is as it was. -/
theorem configure_exits (lookup : Environment) (o : Options) (r : Resolver) :
    let c := r.configure lookup o
    let listed := listedTexts lookup o
    (c.value.error? = none ↔ ∀ text ∈ listed ++ o.templates, Template.WellFormed text) ∧
    ((∃ base more, IsBase lookup o base ∧ SearchPath.Reads o.templates more ∧
        c.value.error? = none ∧ c.trace.noticesAt .error = [] ∧
        c.value.resolver.searchPath = base ++ more ∧
        c.value.resolver.chain = r.chain ++
          if o.pathSearch then
            [.directories ((Text.split ':' ((lookup "PATH").getD "")).filter (· ≠ ""))]
          else []) ∨
      (∃ front bad back e, listed = front ++ bad :: back ∧
        (∀ text ∈ front, Template.WellFormed text) ∧ ¬ Template.WellFormed bad ∧
        e.text = bad ∧ c.value.error? = some e ∧ c.trace.noticesAt .error = [.badTemplate e] ∧
        c.value.resolver.searchPath = [] ∧ c.value.resolver.chain = r.chain) ∨
      ∃ base more front bad back e, IsBase lookup o base ∧ o.templates = front ++ bad :: back ∧
        SearchPath.Reads front more ∧ ¬ Template.WellFormed bad ∧
        e.text = bad ∧ c.value.error? = some e ∧ c.trace.noticesAt .error = [.badTemplate e] ∧
        c.value.resolver.searchPath = base ++ more ∧ c.value.resolver.chain = r.chain) := by
  intro c listed
  have herrors (e : TemplateError) :
      Trace.noticesAt .error ((basePath lookup o).trace ++ [.notice (.badTemplate e)]) =
        [.badTemplate e] := by
    rw [Trace.noticesAt_append, noticesAt_error_basePath]
    rfl
  rcases isBase_or_stopsAt lookup o with ⟨base, hbase⟩ | ⟨path, e, hstops⟩
  · have hvalue := basePath_of_isBase hbase
    have hlisted := wellFormed_of_isBase hbase
    rcases SearchPath.reads_or_stopsAt o.templates with ⟨more, hreads⟩ | ⟨more, e, hstops⟩
    · have hc : c = _ :=
        configure_of_templates_ok r hvalue (SearchPath.appendTexts_of_reads hreads base)
      have hall : ∀ text ∈ listed ++ o.templates, Template.WellFormed text :=
        List.forall_mem_append.mpr ⟨hlisted, SearchPath.wellFormed_of_reads hreads⟩
      rw [hc]
      exact ⟨iff_of_true rfl hall, .inl
        ⟨base, more, hbase, hreads, rfl, noticesAt_error_setupTrace _, rfl, rfl⟩⟩
    · have hc : c = _ :=
        configure_of_templates_error r hvalue (SearchPath.appendTexts_of_stopsAt hstops base)
      have hsome : ¬ ∀ text ∈ listed ++ o.templates, Template.WellFormed text :=
        fun hall => hstops.not_wellFormed (List.forall_mem_append.mp hall).2
      obtain ⟨front, back, htemplates, hreads, herror⟩ := hstops
      rw [hc]
      exact ⟨iff_of_false nofun hsome, .inr (.inr
        ⟨base, more, front, e.text, back, e, hbase, htemplates, hreads,
          (Template.not_wellFormed_of_parse herror).1, rfl, rfl, herrors e, rfl, rfl⟩)⟩
  -- Without a base a text of the list is malformed: the default search path has no such text.
  · have hc : c = _ := configure_of_base_error r (basePath_of_stopsAt hstops)
    have hsome : ¬ ∀ text ∈ listed ++ o.templates, Template.WellFormed text :=
      fun hall => hstops.not_wellFormed (List.forall_mem_append.mp hall).1
    obtain ⟨front, back, hfront, hreads, herror⟩ := hstops
    rw [hc]
    exact ⟨iff_of_false nofun hsome, .inr (.inl
      ⟨front, e.text, back, e, hfront, SearchPath.wellFormed_of_reads hreads,
        (Template.not_wellFormed_of_parse herror).1, rfl, rfl, herrors e, rfl, rfl⟩)⟩

/-- The first of two malformed templates ends a set-up half-way: the search path is the element
of the list and the template before it, and there is no searcher for `PATH`. -/
theorem configure_exits_half_built :
    let lookup : Environment := fun v =>
      if v = "SOURCE_PATH" then some ":a/%s:" else if v = "PATH" then some "/bin" else none
    let o : Options := { templates := ["b/%s.sh", "none", "%s%s"], pathSearch := true }
    let r : Resolver := ⟨[⟨"old/", ""⟩], [.templates]⟩
    let c := r.configure lookup o
    listedTexts lookup o = ["a/%s"] ∧
      c.value.error? = some (.noSlot "none") ∧
      c.trace.noticesAt .error = [.badTemplate (.noSlot "none")] ∧
      c.value.resolver.searchPath = [⟨"a/", ""⟩, ⟨"b/", ".sh"⟩] ∧
      c.value.resolver.chain = [.templates] := by
  intro lookup o r c
  have hlisted : listedTexts lookup o = ["a/%s"] := by decide
  have herror : c.value.error? = some (.noSlot "none") := by decide
  have hpath : c.value.resolver.searchPath = [⟨"a/", ""⟩, ⟨"b/", ".sh"⟩] := by decide
  obtain ⟨_, hexits⟩ := configure_exits lookup o r
  rcases hexits with ⟨_, _, _, _, hnone, _⟩ | ⟨_, bad, _, e, hsplit, _, _, he, hsome, _⟩ |
    ⟨_, _, _, _, _, e, _, _, _, _, _, hsome, hnotices, _, hchain⟩
  · cases hnone.symm.trans herror
  · obtain rfl := Option.some.inj (hsome.symm.trans herror)
    have hmem : bad ∈ listedTexts lookup o := by simp [hsplit]
    rw [hlisted, ← he] at hmem
    exact absurd hmem (by decide)
  · obtain rfl := Option.some.inj (hsome.symm.trans herror)
    exact ⟨hlisted, herror, hnotices, hpath, hchain⟩

end ScriptSearch.Resolver
