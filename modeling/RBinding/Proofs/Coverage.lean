import Mathlib.Data.List.Basic
import Mathlib.Data.Rat.Cast.Order
import RBinding.Coverage
import RBinding.Proofs.Double

/-!
# RBinding.Proofs.Coverage

The share of documented parameters and the report on what is missing are computed apart from each
other, and agree (`check_agrees_with_share`). The messages that a parameter is without documentation
can be told by their text, whatever the names are (`saysUndocumented_message`). There is one for
each parameter without documentation, in a strict report and in one that is not
(`undocumentedCount_check`), and the share counts the other parameters (`share_eq`). A strict report
has these messages as errors, and the other warnings stay (`texts_check_strict`).

The share is an exact fraction (`Share.value`). Its double is one if and only if hardly anything is
missing (`Share.toDouble_sub_eq_one_iff`).
-/

namespace RBinding
namespace Coverage

/-- The text says that a parameter is without documentation. -/
def saysUndocumented (text : String) : Bool :=
  ": no parameter documentation".toList.isSuffixOf text.toList

namespace Finding

def isDocumentation : Finding → Bool
  | .documentation _ => true
  | _ => false

theorem message_documentation (name : String) :
    (documentation name).message = name ++ ": no parameter documentation" := rfl

theorem message_parameter (name : String) :
    (parameter name).message = name ++ ": documented but not a declared parameter" := rfl

/-- No name makes the text of one kind of finding that of another. -/
theorem saysUndocumented_message (f : Finding) :
    saysUndocumented f.message = f.isDocumentation := by
  cases f with
  | title => decide
  | documentation name =>
    rw [message_documentation, saysUndocumented, String.toList_append]
    exact List.isSuffixOf_iff_suffix.mpr (List.suffix_append _ _)
  | parameter name =>
    rw [message_parameter, saysUndocumented, String.toList_append]
    change _ = false
    rw [← Bool.not_eq_true, List.isSuffixOf_iff_suffix]
    intro h
    -- Both are endings of the text, so the shorter one would be an ending of the longer one.
    have hshort := List.suffix_of_suffix_length_le h (List.suffix_append _ _) (by decide)
    exact absurd hshort (by decide)

end Finding

namespace Report

def errorTexts (r : Report) : List String :=
  r.errors.map Finding.message

def warningTexts (r : Report) : List String :=
  r.warnings.map Finding.message

/-- The number of messages that a parameter is without documentation. -/
def undocumentedCount (r : Report) : Nat :=
  (r.errorTexts ++ r.warningTexts).countP saysUndocumented

end Report

theorem filter_message {keep : String → Bool} {keepFinding : Finding → Bool}
    (h : ∀ f : Finding, keep f.message = keepFinding f) (findings : List Finding) :
    (findings.map Finding.message).filter keep =
      (findings.filter keepFinding).map Finding.message := by
  rw [List.filter_map]
  congr 1
  exact List.filter_congr fun f _ => h f

variable (parameters : List Parameter) (doc : DocBlock)

theorem isDocumentation_of_mem_titleFindings :
    ∀ f ∈ titleFindings doc, f.isDocumentation = false := by
  intro f hf
  rw [titleFindings] at hf
  split at hf
  · rw [List.mem_singleton.mp hf]
    rfl
  · cases hf

theorem isDocumentation_of_mem_undocumented :
    ∀ f ∈ undocumented parameters doc, f.isDocumentation = true := by
  intro f hf
  obtain ⟨p, -, rfl⟩ := List.mem_map.mp hf
  rfl

theorem isDocumentation_of_mem_undeclared :
    ∀ f ∈ undeclared parameters doc, f.isDocumentation = false := by
  intro f hf
  obtain ⟨name, -, rfl⟩ := List.mem_map.mp hf
  rfl

theorem filter_of_isDocumentation {findings : List Finding}
    (h : ∀ f ∈ findings, f.isDocumentation = true) :
    findings.filter Finding.isDocumentation = findings ∧
      findings.filter (!·.isDocumentation) = [] := by
  constructor
  · exact List.filter_eq_self.mpr h
  · exact List.filter_eq_nil_iff.mpr fun f hf => by simp [h f hf]

theorem filter_of_not_isDocumentation {findings : List Finding}
    (h : ∀ f ∈ findings, f.isDocumentation = false) :
    findings.filter Finding.isDocumentation = [] ∧
      findings.filter (!·.isDocumentation) = findings := by
  constructor
  · exact List.filter_eq_nil_iff.mpr fun f hf => by simp [h f hf]
  · exact List.filter_eq_self.mpr fun f hf => by simp [h f hf]

/-- In either mode the report has one such message for each parameter without documentation. -/
theorem undocumentedCount_check (strict : Bool) :
    (check parameters doc strict).undocumentedCount = (undocumented parameters doc).length := by
  have htitle := filter_of_not_isDocumentation (isDocumentation_of_mem_titleFindings doc)
  have hall := filter_of_isDocumentation (isDocumentation_of_mem_undocumented parameters doc)
  have hnames := filter_of_not_isDocumentation (isDocumentation_of_mem_undeclared parameters doc)
  rw [Report.undocumentedCount, Report.errorTexts, Report.warningTexts, ← List.map_append,
    List.countP_eq_length_filter, filter_message Finding.saysUndocumented_message, List.length_map]
  cases strict <;> simp [check, htitle, hall, hnames]

/-- A strict check turns these messages into errors and leaves the other warnings as they are. -/
theorem texts_check_strict :
    (check parameters doc true).errorTexts =
        (check parameters doc false).warningTexts.filter saysUndocumented ∧
      (check parameters doc true).warningTexts =
        (check parameters doc false).warningTexts.filter (!saysUndocumented ·) := by
  have htitle := filter_of_not_isDocumentation (isDocumentation_of_mem_titleFindings doc)
  have hall := filter_of_isDocumentation (isDocumentation_of_mem_undocumented parameters doc)
  have hnames := filter_of_not_isDocumentation (isDocumentation_of_mem_undeclared parameters doc)
  have hsays : ∀ f : Finding, (!saysUndocumented f.message) = !f.isDocumentation := by
    intro f
    rw [Finding.saysUndocumented_message]
  constructor
  · rw [Report.warningTexts, filter_message Finding.saysUndocumented_message]
    simp [Report.errorTexts, check, htitle, hall, hnames]
  · rw [Report.warningTexts, Report.warningTexts, filter_message hsays]
    simp [check, htitle, hall, hnames]

namespace Share

def value (s : Share) : ℚ :=
  if s.whole = 0 then 1 else s.part / s.whole

variable {missing whole : Nat}

theorem value_sub (h : missing ≤ whole) :
    value ⟨whole - missing, whole⟩ = if whole = 0 then 1 else ((whole : ℚ) - missing) / whole := by
  rw [value, Nat.cast_sub h]

theorem value_sub_eq_one_iff (h : missing ≤ whole) :
    value ⟨whole - missing, whole⟩ = 1 ↔ missing = 0 := by
  rw [value]
  split
  · rename_i hwhole
    have hwhole : whole = 0 := hwhole
    simp only [true_iff]
    omega
  · rename_i hwhole
    rw [div_eq_one_iff_eq (Nat.cast_ne_zero.mpr hwhole), Nat.cast_inj]
    change whole - missing = whole ↔ missing = 0
    have hwhole : whole ≠ 0 := hwhole
    omega

/-- The double nearest to a share is one even if some is missing, but not more than one part in
`2 ^ 54`. -/
theorem toDouble_sub_eq_one_iff (h : missing ≤ whole) :
    toDouble ⟨whole - missing, whole⟩ = Double.one ↔ missing * 2 ^ 54 ≤ whole := by
  rw [toDouble]
  split
  · rename_i hwhole
    have hwhole : whole = 0 := hwhole
    simp only [Double.ofRatio_self Nat.one_pos, true_iff]
    omega
  · rename_i hwhole
    rw [Double.ofRatio_eq_one_iff (Nat.sub_le _ _) (Nat.pos_of_ne_zero hwhole), Nat.sub_sub_self h]

end Share

theorem undocumented_add_part :
    parameters.length = (undocumented parameters doc).length + (share parameters doc).part := by
  rw [undocumented, List.length_map, share, Nat.add_comm]
  exact List.length_eq_length_filter_add (isDocumented doc)

theorem length_undocumented_le : (undocumented parameters doc).length ≤ parameters.length := by
  have hparts := undocumented_add_part parameters doc
  omega

theorem share_eq :
    share parameters doc =
      ⟨parameters.length - (undocumented parameters doc).length, parameters.length⟩ := by
  have hparts := undocumented_add_part parameters doc
  have hpart : (share parameters doc).part =
      parameters.length - (undocumented parameters doc).length := by omega
  rw [← hpart]
  rfl

theorem texts_undocumented :
    (undocumented parameters doc).map Finding.message =
      (parameters.filter fun p => doc.parameter p.name = "").map
        fun p => p.name ++ ": no parameter documentation" := by
  have hfilter : parameters.filter (!isDocumented doc ·) =
      parameters.filter fun p => doc.parameter p.name = "" := by
    refine List.filter_congr fun p _ => ?_
    rw [isDocumented, Bool.not_not, Bool.eq_iff_iff, String.isEmpty_iff, decide_eq_true_eq]
  rw [undocumented, hfilter, List.map_map]
  rfl

theorem texts_titleFindings :
    (titleFindings doc).map Finding.message =
      if doc.title = "" then ["missing title (undocumented)"] else [] := by
  by_cases h : doc.title = ""
  · rw [titleFindings, if_pos (String.isEmpty_iff.mpr h), if_pos h]
    rfl
  · rw [titleFindings, if_neg (fun hempty => h (String.isEmpty_iff.mp hempty)), if_neg h]
    rfl

theorem texts_undeclared :
    (undeclared parameters doc).map Finding.message =
      (doc.parameters.keys.filter fun name => name ∉ parameters.map (·.name)).map
        fun name => name ++ ": documented but not a declared parameter" := by
  have hfilter : doc.parameters.keys.filter (!(parameters.map (·.name)).contains ·) =
      doc.parameters.keys.filter fun name => name ∉ parameters.map (·.name) := by
    refine List.filter_congr fun name _ => ?_
    rw [List.contains_eq_mem, decide_not]
  rw [undeclared, hfilter, List.map_map]
  rfl

/-- The share and the report agree. In either mode there are `m` messages that a parameter is
without documentation, and the share is that of all other parameters; as a double it is one if at
most one part in `2 ^ 54` is missing. A strict report has these messages as errors, in the order of
the parameters, and keeps the other warnings: the missing title, and then the names that are not
declared in the order in which they are documented. -/
theorem check_agrees_with_share :
    ∃ m, (∀ strict, (check parameters doc strict).undocumentedCount = m) ∧
      (share parameters doc).value =
        (if parameters = [] then 1 else ((parameters.length : ℚ) - m) / parameters.length) ∧
      ((share parameters doc).value = 1 ↔ m = 0) ∧
      share parameters doc = ⟨parameters.length - m, parameters.length⟩ ∧
      ((share parameters doc).toDouble = Double.one ↔ m * 2 ^ 54 ≤ parameters.length) ∧
      (check parameters doc false).errorTexts = [] ∧
      (check parameters doc true).errorTexts.length = m ∧
      (check parameters doc true).errorTexts =
        (check parameters doc false).warningTexts.filter saysUndocumented ∧
      (check parameters doc true).warningTexts =
        (check parameters doc false).warningTexts.filter (!saysUndocumented ·) ∧
      (check parameters doc true).errorTexts =
        (parameters.filter fun p => doc.parameter p.name = "").map
          (fun p => p.name ++ ": no parameter documentation") ∧
      (check parameters doc true).warningTexts =
        (if doc.title = "" then ["missing title (undocumented)"] else []) ++
          (doc.parameters.keys.filter fun name => name ∉ parameters.map (·.name)).map
            (fun name => name ++ ": documented but not a declared parameter") := by
  have hle := length_undocumented_le parameters doc
  obtain ⟨herrors, hwarnings⟩ := texts_check_strict parameters doc
  refine ⟨(undocumented parameters doc).length, undocumentedCount_check parameters doc, ?_, ?_,
    share_eq parameters doc, ?_, rfl, ?_, herrors, hwarnings, texts_undocumented parameters doc, ?_⟩
  · rw [share_eq, Share.value_sub hle]
    simp only [List.length_eq_zero_iff]
  · rw [share_eq, Share.value_sub_eq_one_iff hle]
  · rw [share_eq, Share.toDouble_sub_eq_one_iff hle]
  · simp [Report.errorTexts, check]
  · rw [← texts_titleFindings, ← texts_undeclared, ← List.map_append]
    rfl

end Coverage
end RBinding
