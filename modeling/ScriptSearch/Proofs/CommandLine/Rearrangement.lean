import ScriptSearch.Proofs.CommandLine.Reading

/-! Options in another order. What the options are in the end is said of each of them alone: by
whether a switch stands among the items, by the last of the items for colour and of those with
an interpreter, and by all templates in order. So only the order within each of these three
kinds counts. Complete items leave nothing pending either, so a command line can be cut behind
them and its rest read by itself. -/

namespace ScriptSearch.CommandLine

/-- Flags that say no more when they are repeated. The two flags for colour are none: each
undoes the other. -/
def Flag.isSwitch : Flag → Bool
  | dot | print | verbose | noDefaultPath | pathSearch => true
  | color | noColor => false

def Item.isSwitch : Item → Bool
  | flag f => f.isSwitch
  | _ => false

/-- Switches that stand among the items already. -/
def Repeats (items extra : List Item) : Prop := ∀ item ∈ extra, item.isSwitch ∧ item ∈ items

instance (items extra : List Item) : Decidable (Repeats items extra) :=
  inferInstanceAs (Decidable (∀ item ∈ extra, item.isSwitch ∧ item ∈ items))

/-- The items in another order, with switches repeated more or less often. Interpreters,
templates and the flags for colour stay in order among themselves. -/
structure Rearranged (items items' : List Item) : Prop where
  /-- With some switches of each repeated, one is a permutation of the other. -/
  perm : ∃ extra extra', Repeats items extra ∧ Repeats items' extra' ∧
    (items ++ extra).Perm (items' ++ extra')
  interpreters : items'.filterMap Item.interpreter? = items.filterMap Item.interpreter?
  templates : items'.filterMap Item.template? = items.filterMap Item.template?
  colours : items'.filterMap Item.colour? = items.filterMap Item.colour?

variable {items items' extra : List Item} {front front' : List String}

theorem Repeats.mem_append_iff (h : Repeats items extra) (item : Item) :
    item ∈ items ++ extra ↔ item ∈ items := by
  rw [List.mem_append]
  exact or_iff_left_of_imp fun hextra => (h item hextra).2

namespace Rearranged

/-- Every item that stands in one stands in the other. -/
theorem mem_iff (h : Rearranged items items') (item : Item) : item ∈ items' ↔ item ∈ items := by
  obtain ⟨extra, extra', hextra, hextra', hperm⟩ := h.perm
  rw [← hextra.mem_append_iff item, ← hextra'.mem_append_iff item]
  exact hperm.symm.mem_iff

theorem settle_eq (h : Rearranged items items') (o : Options) :
    settle items' o = settle items o := by
  simp only [settle, h.mem_iff, h.interpreters, h.templates, h.colours]

end Rearranged

/-! ### Cutting a command line -/

/-- Complete items are read to their end without a word. -/
theorem parse_of_itemsWritten (h : ItemsWritten items front) (o : Options) :
    parse o front = ⟨(none, settle items o), []⟩ := by
  rw [parse_of_writes ((writes_iff _ front).mpr (itemsWritten_iff.mp h)), options_eq]
  simp [Ending.status?, Ending.args, Ending.trace, settle]

theorem parse_items_append (h : ItemsWritten items front) (o : Options) (rest : List String) :
    parse o (front ++ rest) = parse (settle items o) rest := by
  rw [parse, Reading.run_items o h, foldl_apply]
  rfl

/-- Complete option items can be put in another order, and switches repeated more or less often,
as long as interpreters, templates and the flags for colour stay in order among themselves:
whatever words follow, the status, the options and all that is written are the same. Reading
goes on behind the items from the options that the items alone leave. -/
theorem parse_rearranged :
    (∀ (items items' : List Item) (front front' : List String),
      ItemsWritten items front → ItemsWritten items' front' → Rearranged items items' →
      ∀ (o : Options) (rest : List String),
        parse o (front' ++ rest) = parse o (front ++ rest)) ∧
    ∀ (items : List Item) (front : List String), ItemsWritten items front →
      ∀ (o : Options) (rest : List String),
        (parse o front).value.1 = none ∧ (parse o front).trace = [] ∧
        parse o (front ++ rest) = parse (parse o front).value.2 rest := by
  constructor
  · intro items items' front front' hfront hfront' hrearranged o rest
    rw [parse_items_append hfront, parse_items_append hfront', hrearranged.settle_eq]
  · intro items front hfront o rest
    rw [parse_of_itemsWritten hfront, parse_items_append hfront]
    exact ⟨rfl, rfl, rfl⟩

/-- The values look like options, one switch is repeated in its other spelling, and the option
behind them is refused in colour. -/
theorem parse_rearranged_look_alikes :
    let items : List Item := [.flag .dot, .template "-x", .interpreter "--", .flag .color]
    let items' : List Item :=
      [.flag .color, .template "-x", .flag .dot, .interpreter "--", .flag .dot]
    let front := ["-d", "-I", "-x", "-x", "--", "--color"]
    let front' := ["--color", "-I", "-x", "-d", "--interpreter", "--", "--dot"]
    let parsed := parse {} (front ++ ["--no", "mod"])
    Rearranged items items' ∧
      parse {} (front' ++ ["--no", "mod"]) = parsed ∧
      parsed.value = (some 2, (parse {} front).value.2) ∧
      parsed.trace.stderr parsed.value.2.toDisplay =
        "\x1b[1;31merror:\x1b[0m unrecognized option: `--no`\n" := by
  intro items items' front front' parsed
  have hfront : ItemsWritten items front := itemsWritten_iff.mpr (by decide)
  have hfront' : ItemsWritten items' front' := itemsWritten_iff.mpr (by decide)
  have hrearranged : Rearranged items items' :=
    { perm := ⟨[.flag .dot], [], by decide, by decide, by decide⟩
      interpreters := rfl
      templates := rfl
      colours := rfl }
  obtain ⟨hsame, hcut⟩ := parse_rearranged
  obtain ⟨_, _, hrest⟩ := hcut items front hfront {} ["--no", "mod"]
  refine ⟨hrearranged, hsame items items' front front' hfront hfront' hrearranged {} _, ?_, ?_⟩
  · exact (congrArg Traced.value hrest).trans (by decide)
  · decide

end ScriptSearch.CommandLine
