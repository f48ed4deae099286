import RBinding.Proofs.Docstring.Fragments
import RBinding.Proofs.Docstring.Parts
import RBinding.Proofs.Docstring.Shape

/-!
# RBinding.Proofs.Docstring.Declared

The names that a block documents. Where names are declared or have aliases, an entry stands for one
of them (`Entry.standsFor`): a declared name for itself, and any other for what it is an alias of.
The documented names are those that the blocks of the docstring are on; the declared ones come first
and in their own order, the others as they were first documented (`keys_parameters_read`). The order
in which names are declared has no other effect (`read_sameButOrder`), as entries only see which
names there are.

Where no name is known any name can come up.
-/

namespace RBinding
namespace Docstring

open Text

/-- What a name in documentation stands for: a declared one for itself, also if it is an alias. -/
inductive StandsFor (names : List String) (aliases : Table String) : String → String → Prop
  | declared {name : String} (mem : name ∈ names) : StandsFor names aliases name name
  | aliased {name parameter : String} (not_mem : name ∉ names)
      (get : aliases.get? name = some parameter) : StandsFor names aliases name parameter

variable {names names' : List String} {aliases : Table String}

theorem StandsFor.mem {token parameter : String} (h : StandsFor names aliases token parameter) :
    parameter ∈ names ∨ ∃ e ∈ aliases.entries, e.2 = parameter := by
  cases h with
  | declared mem => exact .inl mem
  | aliased _ get => exact .inr ⟨_, Table.mem_entries_of_get? get, rfl⟩

theorem exists_knownNames_of_ne_nil (h : names ≠ [] ∨ aliases.entries ≠ []) :
    ∃ table, knownNames names aliases = some table := by
  refine Option.ne_none_iff_exists'.mp fun hnone => ?_
  obtain ⟨hnames, haliases⟩ := knownNames_eq_none_iff.mp hnone
  exact h.elim (absurd hnames) (absurd haliases)

theorem Entry.standsFor (h : names ≠ [] ∨ aliases.entries ≠ []) {line : Line} {e : Entry}
    (he : Entry.ofLine? (knownNames names aliases) line = some e) :
    StandsFor names aliases e.token e.parameter := by
  obtain ⟨table, htable⟩ := exists_knownNames_of_ne_nil h
  obtain ⟨-, -, -, -, -, hget⟩ := Entry.ofLine?_eq_some he
  have hparameter := hget table htable
  rw [get?_knownNames htable] at hparameter
  split at hparameter
  · rename_i hmem
    rw [← Option.some.inj hparameter]
    exact .declared hmem
  · rename_i hmem
    exact .aliased hmem hparameter

theorem standsFor_of_mem_parameterBlocks (h : names ≠ [] ∨ aliases.entries ≠ [])
    {sections : List Section} {b : Block}
    (hb : b ∈ parameterBlocks (knownNames names aliases) sections) :
    StandsFor names aliases b.entry.token b.entry.parameter := by
  obtain ⟨s, -, hb⟩ := List.mem_flatMap.mp hb
  obtain ⟨b', hb', rfl⟩ := List.mem_map.mp hb
  have hentry := (Block.isCut_cut _ _ _).opening_some b' hb'
  have hstands : StandsFor names aliases b'.entry.token b'.entry.parameter :=
    Entry.standsFor h (Arguments.entryAt?_eq_some hentry).2
  exact hstands

/-- The parameters that blocks are on, in the order in which they are first documented. Blocks under
a name that has been seen do not count. -/
def documentedNames (raw : Option String) (names : List String) (aliases : Table String) :
    List String :=
  ((Block.sift [] (parameterBlocks (knownNames names aliases) (sectionsOf raw))).1.map
    (·.entry.parameter)).eraseDups

theorem keys_docs_readArguments (known : Option (Table String)) (sections : List Section) :
    (readArguments known sections).docs.keys =
      ((Block.sift [] (parameterBlocks known sections)).1.map (·.entry.parameter)).eraseDups := by
  have hwrite : ∀ (docs : Table String) (b : Block), ∃ text,
      b.document false docs = docs.insert b.entry.parameter text := fun _ _ => ⟨_, rfl⟩
  rw [docs_readArguments, Table.keys_foldl_write hwrite]
  simp

theorem keys_parameters_read (raw : Option String) (names : List String) (aliases : Table String) :
    (read raw names aliases).block.parameters.keys =
      (names.filter ((documentedNames raw names aliases).contains ·)).eraseDups ++
        (documentedNames raw names aliases).filter (!names.contains ·) := by
  have hnone : ∀ sections : List Section, sections = [] →
      ((Block.sift [] (parameterBlocks (knownNames names aliases) sections)).1.map
        (·.entry.parameter)).eraseDups = [] := by
    rintro _ rfl
    rfl
  cases raw with
  | none => simp [documentedNames, hnone _ rfl, read, sectionsOf]
  | some text =>
    rw [read, documentedNames, sectionsOf]
    split
    · simp [hnone]
    · rw [← keys_docs_readArguments]
      exact keys_inDeclaredOrder _ _

theorem mem_documentedNames {raw : Option String} {name : String}
    (h : name ∈ (read raw names aliases).block.parameters.keys) :
    name ∈ documentedNames raw names aliases := by
  rw [keys_parameters_read, List.mem_append, List.mem_eraseDups, List.mem_filter,
    List.mem_filter] at h
  rcases h with ⟨-, h⟩ | ⟨h, -⟩
  · exact List.contains_iff_mem.mp h
  · exact h

theorem exists_standsFor {raw : Option String} (h : names ≠ [] ∨ aliases.entries ≠ [])
    {name : String} (hname : name ∈ (read raw names aliases).block.parameters.keys) :
    ∃ token, StandsFor names aliases token name := by
  obtain ⟨b, hb, rfl⟩ := List.mem_map.mp (List.mem_eraseDups.mp (mem_documentedNames hname))
  exact ⟨_, standsFor_of_mem_parameterBlocks h (Block.sift_fst_subset _ _ hb)⟩

/-- Where parameters are declared, only declared ones are documented. -/
theorem keys_parameters_subset (raw : Option String) (hnames : names ≠ [])
    (haliases : ∀ e ∈ aliases.entries, e.2 ∈ names) :
    (read raw names aliases).block.parameters.keys ⊆ names := by
  intro name hname
  obtain ⟨token, hstands⟩ := exists_standsFor (.inl hnames) hname
  rcases hstands.mem with hmem | ⟨e, he, rfl⟩
  · exact hmem
  · exact haliases e he

/-- The readings agree but for the order of the documented names. -/
structure SameButOrder (r r' : Reading) : Prop where
  title : r.block.title = r'.block.title
  description : r.block.description = r'.block.description
  returns : r.block.returns = r'.block.returns
  sections : r.block.sections = r'.block.sections
  repeated : r.repeated = r'.repeated
  get? : ∀ name, r.block.parameters.get? name = r'.block.parameters.get? name

theorem Entry.ofLine?_congr (h : ∀ name, name ∈ names ↔ name ∈ names') (line : Line) :
    Entry.ofLine? (knownNames names aliases) line =
      Entry.ofLine? (knownNames names' aliases) line := by
  have hnil : names = [] ↔ names' = [] := by
    rw [List.eq_nil_iff_forall_not_mem, List.eq_nil_iff_forall_not_mem]
    simp only [h]
  cases hknown : knownNames names aliases with
  | none =>
    rw [knownNames_eq_none_iff, hnil, ← knownNames_eq_none_iff] at hknown
    rw [hknown]
  | some table =>
    cases hknown' : knownNames names' aliases with
    | none =>
      rw [knownNames_eq_none_iff, ← hnil, ← knownNames_eq_none_iff, hknown] at hknown'
      cases hknown'
    | some table' =>
      have hget : ∀ token, table.get? token = table'.get? token := fun token => by
        rw [get?_knownNames hknown, get?_knownNames hknown']
        simp only [h]
      simp only [Entry.ofLine?, hget]

theorem readArguments_congr {known known' : Option (Table String)}
    (h : ∀ line, Entry.ofLine? known line = Entry.ofLine? known' line) :
    readArguments known = readArguments known' := by
  have hentry : Arguments.entryAt? known = Arguments.entryAt? known' := by
    funext indent line
    rw [Arguments.entryAt?, Arguments.entryAt?, h]
  have hline : Arguments.readLine known = Arguments.readLine known' := by
    funext underlined indent state line
    rw [Arguments.readLine, Arguments.readLine, hentry]
  have hsection : Arguments.readSection known = Arguments.readSection known' := by
    funext a s
    rw [Arguments.readSection, Arguments.readSection, hline]
  funext sections
  rw [readArguments, readArguments, hsection]

/-- In which order names are declared, and how often, shows in the order of the documented names
only. -/
theorem read_sameButOrder (h : ∀ name, name ∈ names ↔ name ∈ names') (raw : Option String)
    (aliases : Table String) :
    SameButOrder (read raw names aliases) (read raw names' aliases) := by
  have hentry : ∀ line, Entry.ofLine? (knownNames names aliases) line =
      Entry.ofLine? (knownNames names' aliases) line := Entry.ofLine?_congr h
  have harguments := readArguments_congr hentry
  have hget : ∀ name, (read raw names aliases).block.parameters.get? name =
      (read raw names' aliases).block.parameters.get? name := fun name => by
    rw [get?_parameters_read, get?_parameters_read, harguments]
  cases raw with
  | none => exact ⟨rfl, rfl, rfl, rfl, rfl, hget⟩
  | some text =>
    by_cases hblank : blankText text
    · have hread : ∀ ns, read (some text) ns aliases = {} := fun ns => by rw [read, if_pos hblank]
      rw [hread, hread]
      exact ⟨rfl, rfl, rfl, rfl, rfl, fun _ => rfl⟩
    · have hread : ∀ ns, read (some text) ns aliases = readLines ns aliases (clean text.toList) :=
        fun ns => by rw [read, if_neg hblank]
      rw [hread, hread] at hget ⊢
      refine ⟨rfl, ?_, rfl, rfl, ?_, hget⟩
      · simp only [readLines, harguments]
      · simp only [readLines, harguments]

/-- Documentation is on declared parameters and in their order, where names are known. -/
structure DocumentsDeclared (raw : Option String) (names : List String) (aliases : Table String) :
    Prop where
  standsFor : ∀ b ∈ parameterBlocks (knownNames names aliases) (sectionsOf raw),
    StandsFor names aliases b.entry.token b.entry.parameter
  mem : ∀ name ∈ (read raw names aliases).block.parameters.keys,
    name ∈ names ∨ ∃ e ∈ aliases.entries, e.2 = name
  keys : (read raw names aliases).block.parameters.keys =
    (names.filter ((documentedNames raw names aliases).contains ·)).eraseDups ++
      (documentedNames raw names aliases).filter (!names.contains ·)
  order : ∀ names', names.Perm names' →
    SameButOrder (read raw names aliases) (read raw names' aliases)

theorem documentsDeclared (raw : Option String) (h : names ≠ [] ∨ aliases.entries ≠ []) :
    DocumentsDeclared raw names aliases where
  standsFor _ hb := standsFor_of_mem_parameterBlocks h hb
  mem _ hname := (exists_standsFor h hname).elim fun _ hstands => hstands.mem
  keys := keys_parameters_read raw names aliases
  order _ hperm := read_sameButOrder (fun _ => hperm.mem_iff) raw aliases

end Docstring
end RBinding
