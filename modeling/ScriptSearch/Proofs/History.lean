import Mathlib.Tactic.Common
import ScriptSearch.Operation
import ScriptSearch.Proofs.Configuration

/-! The chain of a resolver through a run of operations. Searchers are added at the end, and
removal under a label takes out the earliest searcher with that label. After any run the
chain therefore holds, in the order in which they were added, the searchers that are left,
and of each label these are the ones that were added last. -/

namespace ScriptSearch.Resolver

/-! ### Runs -/

/-- What a run has done to a chain: the searchers that were added, the first of them by the
new resolver, and the labels under which a searcher was taken out. -/
structure History where
  added : List Searcher := [.templates]
  removed : List String := []

namespace History

def add (h : History) (s : Searcher) : History := { h with added := h.added ++ [s] }

def remove (h : History) (label : String) : History := { h with removed := h.removed ++ [label] }

/-- The history with one operation more, as far as its reply says that it was a success. -/
def after (h : History) (w : World) : Operation → Reply → History
  | .add s, _ => h.add s
  | .remove label, .flag true => h.remove label
  | .configure o, .flag true =>
    if o.pathSearch then h.add (Searcher.ofList ((w.lookup "PATH").getD "")) else h
  | _, _ => h

/-- How many searchers were added under a label. -/
def additions (h : History) (label : String) : Nat := h.added.countP (·.label = label)

/-- How many searchers were taken out under a label. -/
def removals (h : History) (label : String) : Nat := h.removed.count label

@[simp] theorem additions_add (h : History) (s : Searcher) (label : String) :
    (h.add s).additions label = h.additions label + if s.label = label then 1 else 0 := by
  simp [additions, add, List.countP_cons]

@[simp] theorem removals_add (h : History) (s : Searcher) (label : String) :
    (h.add s).removals label = h.removals label := rfl

@[simp] theorem additions_remove (h : History) (label label' : String) :
    (h.remove label).additions label' = h.additions label' := rfl

@[simp] theorem removals_remove (h : History) (label label' : String) :
    (h.remove label).removals label' = h.removals label' + if label = label' then 1 else 0 := by
  simp [removals, remove, List.count_cons]

end History

/-- Performs operations one after another, each in a world of its own, and keeps the history. -/
def performAll (r : Resolver) (h : History) : List (World × Operation) → Resolver × History
  | [] => (r, h)
  | (w, op) :: rest =>
    let performed := (r.perform w op).value
    performAll performed.2 (h.after w op performed.1) rest

/-! ### One operation -/

variable {w : World} {r : Resolver} {label : String}

theorem chain_replacePath (r : Resolver) (read : Except TemplateError SearchPath) :
    (r.replacePath read).value.2.chain = r.chain := by
  cases read <;> rfl

/-- A set-up adds the searcher for `PATH` if it succeeds and is asked to, and no other. -/
theorem perform_configure (w : World) (r : Resolver) (o : Options) :
    let performed := (r.perform w (.configure o)).value
    (performed.1 = .flag true ∧
        performed.2.chain = r.chain ++ addedSearchers w.lookup o) ∨
      (performed.1 = .flag false ∧ performed.2.chain = r.chain) := by
  obtain ⟨path, error?, t, hconfigure⟩ := configure_uniform w.lookup o
  simp only [perform, Traced.value_bind, Traced.value_pure, hconfigure]
  cases error? with
  | none => exact .inl ⟨rfl, rfl⟩
  | some e => exact .inr ⟨rfl, List.append_nil _⟩

/-- Of all operations only an addition, a removal and a successful set-up with a search of
`PATH` touch the chain. -/
theorem chain_perform {op : Operation} (hadd : ∀ s, op ≠ .add s)
    (hremove : ∀ label, op ≠ .remove label)
    (hconfigure : ∀ o, op = .configure o →
      (r.perform w op).value.1 = .flag false ∨ o.pathSearch = false) :
    (r.perform w op).value.2.chain = r.chain := by
  cases op with
  | append text => exact chain_replacePath r _
  | setList list => exact chain_replacePath r _
  | add s => exact absurd rfl (hadd s)
  | remove label => exact absurd rfl (hremove label)
  | configure o =>
    rcases perform_configure w r o with ⟨htrue, hchain⟩ | ⟨_, hchain⟩
    · rcases hconfigure o rfl with hfalse | hsearch
      · rw [htrue] at hfalse
        cases hfalse
      · rw [hchain, addedSearchers, hsearch]
        exact List.append_nil _
    · exact hchain
  | appendTemplate _ | prepend _ | clear | size | setHome _ | resolve _ | dispatch _ _
  | source _ _ _ => rfl

theorem mem_labels_iff : label ∈ r.labels ↔ ∃ s ∈ r.chain, s.label = label :=
  List.mem_map

theorem perform_remove_of_absent (h : label ∉ r.labels) :
    r.perform w (.remove label) = pure (.flag false, r) := by
  have hkept : r.chain.eraseP (·.label = label) = r.chain := by
    refine List.eraseP_of_forall_not fun s hs => ?_
    simpa using fun heq => h (mem_labels_iff.mpr ⟨s, hs, heq⟩)
  simp only [perform, remove, hkept]
  rw [show r.labels.contains label = false by simpa using h]

/-- A removal takes out the earliest searcher with the label. -/
theorem perform_remove_of_present (h : label ∈ r.labels) :
    ∃ front s back, r.chain = front ++ s :: back ∧ s.label = label ∧
      (∀ s' ∈ front, s'.label ≠ label) ∧
      r.perform w (.remove label) = pure (.flag true, { r with chain := front ++ back }) := by
  obtain ⟨s, hs, hlabel⟩ := mem_labels_iff.mp h
  obtain ⟨s', front, back, hfront, hs', hsplit, herase⟩ :=
    List.exists_of_eraseP (p := fun s => decide (s.label = label)) hs (by simpa using hlabel)
  refine ⟨front, s', back, hsplit, by simpa using hs', by simpa using hfront, ?_⟩
  simp only [perform, remove, herase]
  rw [show r.labels.contains label = true by simpa using h]

/-- What an operation does to the chain is what the history has of it. -/
theorem perform_cases (w : World) (r : Resolver) (h : History) (op : Operation) :
    let performed := (r.perform w op).value
    (∃ s, h.after w op performed.1 = h.add s ∧ performed.2.chain = r.chain ++ [s]) ∨
      (∃ label, h.after w op performed.1 = h.remove label ∧ label ∈ r.labels ∧
        performed.2.chain = r.chain.eraseP (·.label = label)) ∨
      (h.after w op performed.1 = h ∧ performed.2.chain = r.chain) := by
  cases op with
  | add s => exact .inl ⟨s, rfl, rfl⟩
  | remove label =>
    by_cases hl : label ∈ r.labels
    · have hreply : (r.perform w (.remove label)).value.1 = .flag true := by
        simp [perform, hl]
      exact .inr (.inl ⟨label, by rw [hreply]; rfl, hl, rfl⟩)
    · rw [perform_remove_of_absent hl]
      exact .inr (.inr ⟨rfl, rfl⟩)
  | configure o =>
    rcases perform_configure w r o with ⟨hreply, hchain⟩ | ⟨hreply, hchain⟩
    · cases hsearch : o.pathSearch with
      | true =>
        refine .inl ⟨Searcher.ofList ((w.lookup "PATH").getD ""), ?_, ?_⟩
        · simp [hreply, History.after, hsearch]
        · rw [hchain, addedSearchers, if_pos hsearch]
      | false =>
        refine .inr (.inr ⟨?_, ?_⟩)
        · simp [hreply, History.after, hsearch]
        · rw [hchain, addedSearchers, hsearch]
          exact List.append_nil _
    · exact .inr (.inr ⟨by rw [hreply]; rfl, hchain⟩)
  | append text => exact .inr (.inr ⟨rfl, chain_replacePath r _⟩)
  | setList list => exact .inr (.inr ⟨rfl, chain_replacePath r _⟩)
  | appendTemplate _ | prepend _ | clear | size | setHome _ | resolve _ | dispatch _ _
  | source _ _ _ => exact .inr (.inr ⟨rfl, rfl⟩)

/-! ### The searchers that are left -/

/-- An addition, which is a searcher with its place among all additions, has the label. -/
def Under (label : String) (x : Searcher × Nat) : Bool := x.1.label = label

section Erase

variable {label label' : String}

/-- Of a label the earliest addition is taken out. -/
theorem filter_eraseP (kept : List (Searcher × Nat)) :
    (kept.eraseP (Under label)).filter (Under label) = (kept.filter (Under label)).tail := by
  induction kept with
  | nil => rfl
  | cons x rest ih =>
    by_cases hx : Under label x = true
    · rw [List.eraseP_cons_of_pos hx, List.filter_cons_of_pos hx, List.tail_cons]
    · rw [List.eraseP_cons_of_neg hx, List.filter_cons_of_neg hx, List.filter_cons_of_neg hx, ih]

/-- The additions under other labels stay. -/
theorem filter_eraseP_of_ne (h : label ≠ label') (kept : List (Searcher × Nat)) :
    (kept.eraseP (Under label)).filter (Under label') = kept.filter (Under label') := by
  induction kept with
  | nil => rfl
  | cons x rest ih =>
    by_cases hx : Under label x = true
    · have hother : ¬ Under label' x = true := by
        have hl : x.1.label = label := by simpa [Under] using hx
        simpa [Under, hl] using h
      rw [List.eraseP_cons_of_pos hx, List.filter_cons_of_neg hother]
    · rw [List.eraseP_cons_of_neg hx, List.filter_cons, List.filter_cons, ih]

end Erase

/-- The additions that a chain still has: they stand in it in the order in which they were
made, and of each label they are the last ones, as many as removals have left. -/
structure Survivors (h : History) (chain : List Searcher) (kept : List (Searcher × Nat)) :
    Prop where
  chain_eq : kept.map Prod.fst = chain
  in_order : kept.Sublist h.added.zipIdx
  latest : ∀ label, kept.filter (Under label) <:+ h.added.zipIdx.filter (Under label)
  number : ∀ label, (kept.filter (Under label)).length + h.removals label = h.additions label

namespace Survivors

variable {h : History} {chain : List Searcher} {kept : List (Searcher × Nat)}

/-- A new resolver has the searcher that it starts with. -/
theorem initial : Survivors {} [.templates] [(.templates, 0)] where
  chain_eq := rfl
  in_order := List.Sublist.refl _
  latest _ := List.suffix_refl _
  number label := by
    by_cases hl : Searcher.label .templates = label <;>
      simp [History.additions, History.removals, Under, hl]

theorem add (hk : Survivors h chain kept) (s : Searcher) :
    Survivors (h.add s) (chain ++ [s]) (kept ++ [(s, h.added.length)]) := by
  have hadded : (h.add s).added.zipIdx = h.added.zipIdx ++ [(s, h.added.length)] := by
    simp [History.add, List.zipIdx_append]
  refine ⟨?_, ?_, ?_, ?_⟩
  · rw [List.map_append, hk.chain_eq]
    rfl
  · rw [hadded]
    exact hk.in_order.append (List.Sublist.refl _)
  · intro label
    obtain ⟨front, hfront⟩ := hk.latest label
    rw [hadded, List.filter_append, List.filter_append, ← hfront]
    exact ⟨front, (List.append_assoc _ _ _).symm⟩
  · intro label
    have hnumber := hk.number label
    rw [List.filter_append, List.length_append, History.removals_add, History.additions_add]
    by_cases hl : s.label = label
    · simp [Under, hl]
      omega
    · simp [Under, hl]
      omega

/-- The searchers under one label are those that the chain has there. -/
theorem length_eq_zero_iff (hk : Survivors h chain kept) (label : String) :
    (kept.filter (Under label)).length = 0 ↔ ∀ s ∈ chain, s.label ≠ label := by
  rw [List.length_eq_zero_iff, List.filter_eq_nil_iff, ← hk.chain_eq]
  simp [Under]

theorem remove (hk : Survivors h chain kept) {label : String}
    (hl : ∃ s ∈ chain, s.label = label) :
    Survivors (h.remove label) (chain.eraseP (·.label = label)) (kept.eraseP (Under label)) where
  chain_eq := by
    rw [← hk.chain_eq, List.eraseP_map]
    rfl
  in_order := List.eraseP_sublist.trans hk.in_order
  latest label' := by
    by_cases heq : label = label'
    · subst heq
      rw [filter_eraseP]
      exact (List.tail_suffix _).trans (hk.latest label)
    · rw [filter_eraseP_of_ne heq]
      exact hk.latest label'
  number label' := by
    have hnumber := hk.number label'
    rw [History.removals_remove, History.additions_remove]
    by_cases heq : label = label'
    · subst heq
      have hsome : (kept.filter (Under label)).length ≠ 0 := by
        rw [Ne, hk.length_eq_zero_iff]
        exact fun hnone => hl.elim fun s hs => hnone s hs.1 hs.2
      rw [filter_eraseP, List.length_tail, if_pos rfl]
      omega
    · rw [filter_eraseP_of_ne heq, if_neg heq]
      exact hnumber

/-- One operation more. -/
theorem step {r : Resolver} (hk : Survivors h r.chain kept) (w : World) (op : Operation) :
    let performed := (r.perform w op).value
    ∃ kept', Survivors (h.after w op performed.1) performed.2.chain kept' := by
  intro performed
  rcases perform_cases w r h op with
    ⟨s, hafter, hchain⟩ | ⟨label, hafter, hl, hchain⟩ | ⟨hafter, hchain⟩
  · rw [hafter, hchain]
    exact ⟨_, hk.add s⟩
  · rw [hafter, hchain]
    exact ⟨_, hk.remove (mem_labels_iff.mp hl)⟩
  · rw [hafter, hchain]
    exact ⟨kept, hk⟩

/-- Any number of operations more. -/
theorem run {r : Resolver} (hk : Survivors h r.chain kept) (steps : List (World × Operation)) :
    ∃ kept', Survivors (performAll r h steps).2 (performAll r h steps).1.chain kept' := by
  induction steps generalizing r h kept with
  | nil => exact ⟨kept, hk⟩
  | cons step rest ih =>
    obtain ⟨_, hnext⟩ := hk.step step.1 step.2
    exact ih hnext

/-- Removals under a label have used up its additions once the chain has none of them. -/
theorem additions_eq_removals_iff {r : Resolver} (hk : Survivors h r.chain kept)
    (label : String) : h.additions label = h.removals label ↔ label ∉ r.labels := by
  have hnumber := hk.number label
  rw [mem_labels_iff]
  constructor
  · intro heq
    have hzero := (hk.length_eq_zero_iff label).mp (by omega)
    rintro ⟨s, hs, hl⟩
    exact hzero s hs hl
  · intro hnone
    have hzero := (hk.length_eq_zero_iff label).mpr fun s hs hl => hnone ⟨s, hs, hl⟩
    omega

end Survivors

/-! ### All runs -/

/-- After any run of operations on a new resolver its chain has the searchers that are left
in the order in which they were added, and under each label they are the last additions, as
many as the removals have left. A removal fails exactly if they have left none, and then
changes nothing; otherwise it takes out the earliest of them and leaves all else in place. No
other operation touches the chain, but for additions and a set-up that succeeds and is asked
to search `PATH`. -/
theorem performAll_survivors (path : SearchPath) (steps : List (World × Operation)) :
    let ended := (ofSearchPath path).performAll {} steps
    let r := ended.1
    let h := ended.2
    (∃ kept, Survivors h r.chain kept) ∧
    (∀ w label,
      ((r.perform w (.remove label)).value.1 = .flag false ↔
        h.additions label = h.removals label) ∧
      (h.additions label = h.removals label →
        r.perform w (.remove label) = pure (.flag false, r)) ∧
      (h.additions label ≠ h.removals label →
        ∃ front s back, r.chain = front ++ s :: back ∧ s.label = label ∧
          (∀ s' ∈ front, s'.label ≠ label) ∧
          r.perform w (.remove label) =
            pure (.flag true, { r with chain := front ++ back }))) ∧
    ∀ w op, (∀ s, op ≠ .add s) → (∀ label, op ≠ .remove label) →
      (∀ o, op = .configure o →
        (r.perform w op).value.1 = .flag false ∨ o.pathSearch = false) →
      (r.perform w op).value.2.chain = r.chain := by
  intro ended r h
  obtain ⟨kept, hk⟩ : ∃ kept, Survivors h r.chain kept :=
    Survivors.initial.run (r := ofSearchPath path) steps
  refine ⟨⟨kept, hk⟩, ?_, fun w op => chain_perform⟩
  intro w label
  have hiff := hk.additions_eq_removals_iff label
  by_cases hl : label ∈ r.labels
  · have hne : h.additions label ≠ h.removals label := fun heq => hiff.mp heq hl
    obtain ⟨front, s, back, hsplit, hs, hfront, hperform⟩ :=
      perform_remove_of_present (w := w) hl
    refine ⟨?_, fun heq => absurd heq hne,
      fun _ => ⟨front, s, back, hsplit, hs, hfront, hperform⟩⟩
    rw [hperform]
    exact iff_of_false (by simp) hne
  · have heq := hiff.mpr hl
    have hperform := perform_remove_of_absent (w := w) hl
    refine ⟨?_, fun _ => hperform, fun hne => absurd heq hne⟩
    rw [hperform]
    exact iff_of_true rfl heq

/-- A searcher that is registered as `path` and one for `PATH` itself: the removal takes the
first, and with the templates searcher taken out too, a second removal of it fails. -/
theorem performAll_survivors_shared_label :
    let w : World := ⟨fun _ => false, fun v => if v = "PATH" then some "/bin" else none,
      fun _ => .ok ⟨.error .noEntry, none⟩, false⟩
    let steps : List (World × Operation) :=
      [(w, .add (.registered "path" fun _ => .missing [])), (w, .configure { pathSearch := true }),
        (w, .remove "path"), (w, .remove "default")]
    let r := ((ofSearchPath []).performAll {} steps).1
    r.chain = [.directories ["/bin"]] ∧
      r.perform w (.remove "default") = pure (.flag false, r) ∧
      (r.perform w (.resolve "m")).value.2.chain = r.chain := by
  intro w steps r
  obtain ⟨_, hremove, hothers⟩ := performAll_survivors [] steps
  exact ⟨rfl, (hremove w "default").2.1 (by decide),
    hothers w (.resolve "m") nofun nofun nofun⟩

end ScriptSearch.Resolver
