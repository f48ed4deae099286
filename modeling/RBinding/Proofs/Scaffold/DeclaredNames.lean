import RBinding.Proofs.Scaffold.Documentation
import RBinding.World.Describe

/-!
# RBinding.Proofs.Scaffold.DeclaredNames

A run reads documentation with the names of the parameters that it keeps, and with aliases that
stand for them. So if there is a parameter all documented names are declared, and the check of
coverage has none to report (`Scaffold.undeclared_wrap`). A description of its own accord does not
report any either: it only tells of paths that are no module and of defaults that cannot be written
(`World.all_describe`).
-/

namespace RBinding

/-- The note is on a documented name that is not declared. -/
def Note.isUndeclared : Note → Bool
  | .incomplete _ (.parameter _) => true
  | _ => false

theorem Note.filter_map_isUndeclared {α : Type} {note : α → Note}
    (h : ∀ a, (note a).isUndeclared = false) (l : List α) :
    (l.map note).filter Note.isUndeclared = [] := by
  rw [List.filter_eq_nil_iff]
  intro n hn
  obtain ⟨a, -, rfl⟩ := List.mem_map.mp hn
  rw [h a]
  exact Bool.false_ne_true

namespace Traced

variable {α : Type}

def undeclared (t : Traced α) : List Note :=
  t.log.filter Note.isUndeclared

theorem undeclared_eq_nil {t : Traced α}
    (h : t.All fun e => ∀ n, e.note? = some n → n.isUndeclared = false) : t.undeclared = [] :=
  filter_log_eq_nil h

end Traced

theorem Coverage.undeclared_eq_nil {parameters : List Parameter} {doc : DocBlock}
    (h : doc.parameters.keys ⊆ parameters.map (·.name)) :
    Coverage.undeclared parameters doc = [] := by
  rw [Coverage.undeclared, List.map_eq_nil_iff, List.filter_eq_nil_iff]
  intro name hname
  simpa using h hname

namespace Scaffold

variable {settings : Settings} {target : String} {options : Options}
  {description : Traced Description} {d : Described} {w : Wrapper}

theorem keys_block_subset (h : d.kept ≠ []) : d.block.parameters.keys ⊆ d.kept.map (·.name) :=
  Docstring.keys_parameters_subset d.doc (by simpa using h) fun _ => mem_names_of_mem_aliasTable

theorem filter_coverageNotes {parameters : List Parameter} {doc : DocBlock}
    (h : doc.parameters.keys ⊆ parameters.map (·.name)) :
    (coverageNotes target parameters doc).filter Note.isUndeclared = [] := by
  have htitle : ((Coverage.titleFindings doc).map (Note.incomplete target)).filter
      Note.isUndeclared = [] := by
    rw [Coverage.titleFindings]
    split <;> rfl
  have hdocumentation : ((Coverage.undocumented parameters doc).map (Note.incomplete target)).filter
      Note.isUndeclared = [] := by
    rw [Coverage.undocumented, List.map_map]
    exact Note.filter_map_isUndeclared (fun _ => rfl) _
  have hwarnings : (Coverage.check parameters doc false).warnings =
      Coverage.titleFindings doc ++ Coverage.undocumented parameters doc := by
    simp [Coverage.check, Coverage.undeclared_eq_nil h]
  rw [coverageNotes, hwarnings, List.map_append, List.filter_append]
  split
  · rfl
  · rw [List.filter_append, htitle, hdocumentation]
    rfl

theorem undeclared_readDoc (h : d.kept ≠ []) : (readDoc target d.kept d.doc).undeclared = [] := by
  rw [Traced.undeclared, log_readDoc, List.filter_append,
    Note.filter_map_isUndeclared (fun _ => rfl)]
  exact filter_coverageNotes (keys_block_subset h)

theorem undeclared_completion (d : Described) :
    (completion settings target options d).undeclared = [] := by
  have hreplaced : ∀ name expression n, (Event.note (.replaced name expression)).note? = some n →
      n.isUndeclared = false := by
    intro name expression n hn
    cases hn
    rfl
  have hscaffolded : ∀ n, (Event.note (.scaffolded (wrapperName target options) target
      d.kept.length)).note? = some n → n.isUndeclared = false := by
    intro n hn
    cases hn
    rfl
  refine Traced.undeclared_eq_nil ?_
  refine (Rendering.all_renderAll (fun _ _ hn => nomatch hn) hreplaced _ _ _).bind fun _ => ?_
  refine .bind (all_postprocess (fun _ hn => nomatch hn) _) fun _ => ?_
  refine .bind (Traced.all_of_events_nil (events_assemble _ _)) fun _ => ?_
  exact .bind (Traced.all_event hscaffolded) fun _ => Traced.all_of_events_nil rfl

theorem undeclared_orWithoutSignature (target : String) (description : Traced Description) :
    (orWithoutSignature target description).undeclared = description.undeclared := by
  rw [orWithoutSignature]
  split
  · rfl
  · simp [Traced.undeclared, Traced.log, Event.note?, Note.isUndeclared]
  · rfl

/-- Where a parameter is declared a run reports no documented name that is not. -/
theorem undeclared_wrap (hd : (orWithoutSignature target description).result = .ok d)
    (h : d.kept ≠ []) :
    (wrap settings target options description).undeclared = description.undeclared := by
  rw [← undeclared_orWithoutSignature target, Traced.undeclared,
    filter_log_wrap hd rfl (undeclared_readDoc h) (undeclared_completion d),
    Note.filter_map_isUndeclared fun _ => rfl]
  exact List.append_nil _

theorem exists_kept (h : (wrap settings target options description).result = .ok w) :
    ∃ d, (orWithoutSignature target description).result = .ok d ∧
      w.header = Assembly.header w.name d.kept := by
  obtain ⟨d, rendered, text, hd, -, -, hw⟩ := exists_stages h
  rw [toWrapper_ok hw]
  exact ⟨d, hd, rfl⟩

end Scaffold

namespace World

variable {P : Event → Prop} {w : World} {target : String}

theorem all_importLongest (hmodule : ∀ path message, P (.note (.notAModule path message)))
    (path : Path) (n : Nat) (imported : Imports) :
    (w.importLongest target path n imported).2.All P := by
  induction n generalizing imported with
  | zero => exact Traced.all_of_events_nil rfl
  | succ n ih =>
    rw [importLongest]
    split
    · exact Traced.all_of_events_nil rfl
    · split
      · exact (Traced.all_event (hmodule _ _)).bind fun _ => ih _
      · split <;> exact Traced.all_of_events_nil rfl

theorem all_resolve (hmodule : ∀ path message, P (.note (.notAModule path message)))
    (imported : Imports) : (w.resolve imported target).2.All P := by
  rw [resolve]
  split
  · exact Traced.all_of_events_nil rfl
  · refine (all_importLongest hmodule _ _ _).bind fun found => ?_
    cases found <;> exact Traced.all_of_events_nil rfl

theorem all_declareAll
    (hdefault : ∀ name message, P (.note (.unwritableDefault target name message)))
    (formals : List Formal) : (declareAll target formals).All P := by
  rw [declareAll]
  refine (Traced.all_notes fun n hn => ?_).bind fun _ => ?_
  · obtain ⟨p, -, hn⟩ := List.mem_flatMap.mp hn
    rw [defaultNotes] at hn
    split at hn
    · cases hn
    · split at hn
      · cases hn
      · rw [List.mem_singleton.mp hn]
        exact hdefault _ _
  · split <;> exact Traced.all_of_events_nil rfl

theorem all_describeObject
    (hdefault : ∀ name message, P (.note (.unwritableDefault target name message)))
    (imported : Imports) (object : Object) : (describeObject w imported target object).All P := by
  rw [describeObject]
  split
  · exact Traced.all_of_events_nil rfl
  · refine (Traced.all_of_events_nil rfl).bind fun doc => (Traced.all_of_events_nil rfl).bind
      fun all => ?_
    dsimp only
    split
    · exact Traced.all_of_events_nil rfl
    · exact (all_declareAll hdefault _).bind fun _ => Traced.all_of_events_nil rfl

theorem all_describe (hmodule : ∀ path message, P (.note (.notAModule path message)))
    (hdefault : ∀ name message, P (.note (.unwritableDefault target name message)))
    (imported : Imports) : (w.describe imported target).2.All P :=
  (all_resolve hmodule imported).bind fun object => all_describeObject hdefault _ object

theorem undeclared_describe (w : World) (imported : Imports) (target : String) :
    (w.provider.describe imported target).2.undeclared = [] := by
  refine Traced.undeclared_eq_nil (all_describe (fun _ _ n hn => ?_) (fun _ _ n hn => ?_) imported)
  · cases hn
    rfl
  · cases hn
    rfl

end World

/-- Documentation is on declared parameters and what aliases stand for, and the declared ones come
in their order. So a wrapper with a parameter is not reported to have documentation of one that is
not declared. -/
theorem documented_names_declared :
    (∀ (raw : Option String) (names : List String) (aliases : Table String),
      names ≠ [] ∨ aliases.entries ≠ [] → Docstring.DocumentsDeclared raw names aliases) ∧
    (∀ (settings : Settings) (State : Type) (provider : Provider State) (state : State)
      (target : String) (w : Wrapper),
      (scaffold settings provider state target).2.result = .ok w →
      w.header ≠ Assembly.header w.name [] →
      (scaffold settings provider state target).2.undeclared =
        (provider.describe state target).2.undeclared) ∧
    ∀ (world : World) (imported : World.Imports) (target : String),
      (world.provider.describe imported target).2.undeclared = [] := by
  refine ⟨fun raw names aliases h => Docstring.documentsDeclared raw h, ?_,
    World.undeclared_describe⟩
  intro settings State provider state target w hw hheader
  obtain ⟨d, hd, hkept⟩ := Scaffold.exists_kept hw
  refine Scaffold.undeclared_wrap hd fun hnone => ?_
  rw [hnone] at hkept
  exact hheader hkept

def shiftDoc : Option String :=
  some "Shift.\n\nArgs:\n    step: how far\n    extra: more\n    data: what\n    old: is moved"

def shiftAliases : Table String :=
  .ofList [("extra", "..."), ("old", "data"), ("step", "data")]

theorem documented_names_declared_shift :
    (["data", "step"] ≠ [] ∧ Docstring.DocumentsDeclared shiftDoc ["data", "step"] shiftAliases) ∧
    (Docstring.read shiftDoc ["data", "step"] shiftAliases).block.parameters.entries =
      [("data", "what is moved"), ("step", "how far"), ("...", "more")] ∧
    (scaffold {} rotations () "pkg.rotate").2.result = .ok rotateWrapper ∧
    rotateWrapper.header ≠ Assembly.header rotateWrapper.name [] ∧
    (scaffold {} rotations () "pkg.rotate").2.undeclared =
      (rotations.describe () "pkg.rotate").2.undeclared := by
  have hnames : ["data", "step"] ≠ [] := List.cons_ne_nil _ _
  have hwrapper : (scaffold {} rotations () "pkg.rotate").2.result = .ok rotateWrapper := by
    decide +kernel
  have hheader : rotateWrapper.header ≠ Assembly.header rotateWrapper.name [] := by decide +kernel
  obtain ⟨hread, hrun, -⟩ := documented_names_declared
  exact ⟨⟨hnames, hread _ _ _ (.inl hnames)⟩, by decide +kernel, hwrapper, hheader,
    hrun {} Unit rotations () "pkg.rotate" rotateWrapper hwrapper hheader⟩

end RBinding
