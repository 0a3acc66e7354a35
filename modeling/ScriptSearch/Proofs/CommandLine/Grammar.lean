import Mathlib.Tactic.Common
import ScriptSearch.CommandLine

/-! The grammar of command lines as a relation: which words an option item and an ending
are written with. Every list of words is written by exactly one command line, so the items
are the longest sequence of options that the words begin with. -/

namespace ScriptSearch.CommandLine

/-! ### Words -/

def Flag.spellings : Flag → List String
  | dot => ["-d", "--dot"]
  | print => ["-p", "--print"]
  | verbose => ["-v", "--verbose"]
  | noDefaultPath => ["--no-default-path"]
  | pathSearch => ["--path-search"]
  | color => ["--color"]
  | noColor => ["--no-color"]

/-- The words that start with a dash and are no mistake. -/
def reserved : List String :=
  ["-h", "--help", "-V", "--version", "-d", "--dot", "-p", "--print", "-v", "--verbose",
    "--no-default-path", "--path-search", "--color", "--no-color", "-x", "--interpreter", "-I",
    "--"]

namespace Word

/-- The meaning of a word where an option may stand. -/
def Means : Word → String → Prop
  | flag f, s => s ∈ f.spellings
  | interpreter, s => s = "-x" ∨ s = "--interpreter"
  | template, s => s = "-I"
  | separator, s => s = "--"
  | help, s => s = "-h" ∨ s = "--help"
  | version, s => s = "-V" ∨ s = "--version"
  | unknown, s => s.toList.head? = some '-' ∧ s ≠ "-" ∧ s ∉ reserved
  | plain, s => s = "" ∨ s = "-" ∨ s.toList.head? ≠ some '-'

instance (s : String) : (w : Word) → Decidable (w.Means s)
  | flag f => inferInstanceAs (Decidable (s ∈ f.spellings))
  | interpreter => inferInstanceAs (Decidable (s = "-x" ∨ s = "--interpreter"))
  | template => inferInstanceAs (Decidable (s = "-I"))
  | separator => inferInstanceAs (Decidable (s = "--"))
  | help => inferInstanceAs (Decidable (s = "-h" ∨ s = "--help"))
  | version => inferInstanceAs (Decidable (s = "-V" ∨ s = "--version"))
  | unknown =>
    inferInstanceAs (Decidable (s.toList.head? = some '-' ∧ s ≠ "-" ∧ s ∉ reserved))
  | plain => inferInstanceAs (Decidable (s = "" ∨ s = "-" ∨ s.toList.head? ≠ some '-'))

theorem map_fst_spellings : CommandLine.spellings.map Prod.fst = reserved := rfl

theorem means_of_mem_spellings : ∀ p ∈ CommandLine.spellings, p.2.Means p.1 := by
  decide

theorem lookup_eq_none_iff (s : String) : CommandLine.spellings.lookup s = none ↔ s ∉ reserved := by
  rw [List.lookup_eq_none_iff, ← map_fst_spellings, List.mem_map]
  constructor
  · rintro h ⟨p, hp, rfl⟩
    simpa using h p hp
  · intro h p hp
    have hne : s ≠ p.1 := fun heq => h ⟨p, hp, heq.symm⟩
    simpa using hne

/-- No reserved word is plain. -/
theorem not_mem_reserved_of_plain {s : String} (h : plain.Means s) : s ∉ reserved := by
  intro hs
  have hall : ∀ s ∈ reserved, ¬ plain.Means s := by decide
  exact hall s hs h

theorem means_ofString (s : String) : (ofString s).Means s := by
  unfold ofString
  cases hl : CommandLine.spellings.lookup s with
  | some w =>
    obtain ⟨front, back, hsplit, _⟩ := List.lookup_eq_some_iff.mp hl
    exact means_of_mem_spellings (s, w) (by simp [hsplit])
  | none =>
    have hs := (lookup_eq_none_iff s).mp hl
    by_cases hd : s.toList.head? = some '-' ∧ s ≠ "-"
    · simp only [if_pos hd]
      exact ⟨hd.1, hd.2, hs⟩
    · simp only [if_neg hd]
      by_cases hdash : s = "-"
      · exact .inr (.inl hdash)
      · exact .inr (.inr fun h => hd ⟨h, hdash⟩)

theorem ofString_of_means {w : Word} {s : String} (h : w.Means s) : ofString s = w := by
  cases w with
  | flag f =>
    have hall : ∀ s ∈ f.spellings, ofString s = .flag f := by cases f <;> decide
    exact hall s h
  | interpreter => rcases h with rfl | rfl <;> rfl
  | template => subst h; rfl
  | separator => subst h; rfl
  | help => rcases h with rfl | rfl <;> rfl
  | version => rcases h with rfl | rfl <;> rfl
  | unknown =>
    obtain ⟨hd, hne, hs⟩ := h
    simp only [ofString, (lookup_eq_none_iff s).mpr hs, if_pos (And.intro hd hne)]
  | plain =>
    have hs := not_mem_reserved_of_plain h
    have hd : ¬ (s.toList.head? = some '-' ∧ s ≠ "-") := by
      rintro ⟨hhead, hne⟩
      rcases h with rfl | rfl | h
      · cases hhead
      · exact hne rfl
      · exact h hhead
    simp only [ofString, (lookup_eq_none_iff s).mpr hs, if_neg hd]

theorem means_of_ofString {w : Word} {s : String} (h : ofString s = w) : w.Means s :=
  h ▸ means_ofString s

end Word

/-! ### Items and endings -/

/-- The words of a complete option. A value is any word, whatever it looks like. -/
def Item.Written : Item → List String → Prop
  | flag f, words => ∃ s, (Word.flag f).Means s ∧ words = [s]
  | interpreter program, words => ∃ s, Word.interpreter.Means s ∧ words = [s, program]
  | template text, words => ∃ s, Word.template.Means s ∧ words = [s, text]

/-- Complete options one after another. -/
inductive ItemsWritten : List Item → List String → Prop
  | nil : ItemsWritten [] []
  | cons {item : Item} {items : List Item} {words rest : List String} (head : item.Written words)
      (tail : ItemsWritten items rest) : ItemsWritten (item :: items) (words ++ rest)

/-- The words from the one that ends the options on. -/
def Ending.Written : Ending → List String → Prop
  | noMore, words => words = []
  | separator args, words => words = "--" :: args
  | script name args, words => Word.plain.Means name ∧ words = name :: args
  | help, words => ∃ s rest, Word.help.Means s ∧ words = s :: rest
  | version, words => ∃ s rest, Word.version.Means s ∧ words = s :: rest
  | refused (.unrecognized word), words => Word.unknown.Means word ∧ ∃ rest, words = word :: rest
  | refused .missingInterpreter, words => ∃ s, Word.interpreter.Means s ∧ words = [s]
  | refused .missingTemplate, words => ∃ s, Word.template.Means s ∧ words = [s]

/-- The words of a command line: those of its items and behind them those of its ending. -/
def Writes (c : CommandLine) (words : List String) : Prop :=
  ∃ front back, words = front ++ back ∧ ItemsWritten c.items front ∧ c.ending.Written back

theorem Writes.addItem {c : CommandLine} {item : Item} {words rest : List String}
    (hc : c.Writes rest) (hi : item.Written words) : (c.addItem item).Writes (words ++ rest) := by
  obtain ⟨front, back, rfl, hfront, hback⟩ := hc
  exact ⟨words ++ front, back, by simp, .cons hi hfront, hback⟩

theorem writes_ending {e : Ending} {words : List String} (h : e.Written words) :
    (⟨[], e⟩ : CommandLine).Writes words :=
  ⟨[], words, rfl, .nil, h⟩

/-! ### Reading words back -/

theorem ofWords_item {item : Item} {words : List String} (h : item.Written words)
    (rest : List String) : ofWords (words ++ rest) = (ofWords rest).addItem item := by
  cases item with
  | flag f =>
    obtain ⟨s, hs, rfl⟩ := h
    exact ofWords_flag rest (Word.ofString_of_means hs)
  | interpreter program =>
    obtain ⟨s, hs, rfl⟩ := h
    exact ofWords_interpreter rest (Word.ofString_of_means hs) program
  | template text =>
    obtain ⟨s, hs, rfl⟩ := h
    exact ofWords_template rest (Word.ofString_of_means hs) text

theorem ofWords_items {items : List Item} {front : List String} (h : ItemsWritten items front)
    (rest : List String) :
    ofWords (front ++ rest) = ⟨items ++ (ofWords rest).items, (ofWords rest).ending⟩ := by
  induction h with
  | nil => rfl
  | cons head _ ih =>
    rw [List.append_assoc, ofWords_item head, ih]
    rfl

theorem ofWords_ending {e : Ending} {words : List String} (h : e.Written words) :
    ofWords words = ⟨[], e⟩ := by
  match e, h with
  | .noMore, h => rw [h, ofWords_nil]
  | .separator args, h => rw [h, ofWords_separator]
  | .script name args, ⟨hname, h⟩ => rw [h, ofWords_plain args (Word.ofString_of_means hname)]
  | .help, ⟨s, rest, hs, h⟩ => simp [h, ofWords, Word.ofString_of_means hs]
  | .version, ⟨s, rest, hs, h⟩ => simp [h, ofWords, Word.ofString_of_means hs]
  | .refused (.unrecognized word), ⟨hword, rest, h⟩ =>
    simp [h, ofWords, Word.ofString_of_means hword]
  | .refused .missingInterpreter, ⟨s, hs, h⟩ => simp [h, ofWords, Word.ofString_of_means hs]
  | .refused .missingTemplate, ⟨s, hs, h⟩ => simp [h, ofWords, Word.ofString_of_means hs]

/-- Whatever the words are, the command line that is read off them writes them. -/
theorem writes_ofWords (words : List String) : (ofWords words).Writes words := by
  fun_induction ofWords words with
  | case1 => exact writes_ending rfl
  | case2 word f rest hw ih =>
    have hi : (Item.flag f).Written [word] := ⟨word, Word.means_of_ofString hw, rfl⟩
    exact ih.addItem hi
  | case3 word program rest hw ih =>
    have hi : (Item.interpreter program).Written [word, program] :=
      ⟨word, Word.means_of_ofString hw, rfl⟩
    exact ih.addItem hi
  | case4 word hw => exact writes_ending ⟨word, Word.means_of_ofString hw, rfl⟩
  | case5 word text rest hw ih =>
    have hi : (Item.template text).Written [word, text] := ⟨word, Word.means_of_ofString hw, rfl⟩
    exact ih.addItem hi
  | case6 word hw => exact writes_ending ⟨word, Word.means_of_ofString hw, rfl⟩
  | case7 word rest hw =>
    obtain rfl : word = "--" := Word.means_of_ofString hw
    exact writes_ending rfl
  | case8 word rest hw => exact writes_ending ⟨word, rest, Word.means_of_ofString hw, rfl⟩
  | case9 word rest hw => exact writes_ending ⟨word, rest, Word.means_of_ofString hw, rfl⟩
  | case10 word rest hw => exact writes_ending ⟨Word.means_of_ofString hw, rest, rfl⟩
  | case11 word rest hw => exact writes_ending ⟨Word.means_of_ofString hw, rfl⟩

/-- Reading is the inverse of writing: exactly one command line writes given words. -/
theorem writes_iff (c : CommandLine) (words : List String) :
    c.Writes words ↔ ofWords words = c := by
  constructor
  · rintro ⟨front, back, rfl, hfront, hback⟩
    rw [ofWords_items hfront, ofWords_ending hback]
    simp
  · rintro rfl
    exact writes_ofWords words

/-- Words are complete options if they are read as options with nothing behind them. -/
theorem itemsWritten_iff {items : List Item} {words : List String} :
    ItemsWritten items words ↔ ofWords words = ⟨items, .noMore⟩ := by
  rw [← writes_iff]
  constructor
  · intro h
    exact ⟨words, [], (List.append_nil words).symm, h, rfl⟩
  · rintro ⟨front, back, rfl, hfront, hback⟩
    obtain rfl : back = [] := hback
    rwa [List.append_nil]

/-- No sequence of options at the start of the words is longer than the one that is read. -/
theorem items_prefix_ofWords {items : List Item} {front : List String}
    (h : ItemsWritten items front) (rest : List String) :
    items <+: (ofWords (front ++ rest)).items := by
  rw [ofWords_items h]
  exact List.prefix_append items _

end ScriptSearch.CommandLine
