import RBinding.Proofs.Table
import RBinding.Scaffold

/-!
# RBinding.Proofs.Options

What is known of options that were accepted. Each of them is what was read from the request for it
(`reads_of_read`), so the tags have names that hold no line feed, and a hook is the one that was
given.
-/

namespace RBinding
namespace Options

/-- The options are those that the request asks for. -/
structure Reads (r : Request) (o : Options) : Prop where
  generatedName : readGeneratedName r.generatedName = .ok o.generatedName
  namePrefix : readPrefix r.namePrefix = .ok o.namePrefix
  parameterHook : readHook "parameter_hook" r.parameterHook = .ok o.parameterHook
  postprocessHook : readHook "postprocess_hook" r.postprocessHook = .ok o.postprocessHook
  extraTags : readExtraTags r.extraTags = .ok o.extraTags
  exported : readExported r.exported = .ok o.exported

theorem reads_of_check {r : Request} {o : Options} (h : r.check = .ok o) : Reads r o := by
  rw [Request.check] at h
  split at h
  · rename_i hname hprefix hhook hpostprocess htags hexported
    cases h
    exact ⟨hname, hprefix, hhook, hpostprocess, htags, hexported⟩
  · cases h

theorem reads_of_read {r : Request} {o : Options} (h : r.read = .ok o) :
    ∃ tags, tagEntries r.extraTags = .ok tags ∧ Reads { r with extraTags := tags } o := by
  rw [Request.read] at h
  split at h
  · cases h
  · rename_i tags htags
    split at h
    · cases h
    · rename_i o' hcheck
      cases h
      exact ⟨tags, htags, reads_of_check hcheck⟩

theorem readHook_some {Hook : Type} {place : String} {given : GivenHook Hook} {hook : Hook}
    (h : readHook place given = .ok (some hook)) : given = .callable hook := by
  cases given with
  | absent => cases h
  | callable hook' =>
    cases h
    rfl
  | notCallable typeName => cases h

theorem isTagName_of_readExtraTags {given : Value} {t : Table String}
    (h : readExtraTags given = .ok t) : ∀ tag ∈ t.keys, isTagName tag = true := by
  cases given with
  | dict es =>
    rw [readExtraTags] at h
    split at h
    · split at h
      · cases h
      · rename_i hfind
        cases h
        intro tag htag
        simpa using List.find?_eq_none.mp hfind tag htag
    · cases h
  | _ => cases h

theorem isAlphanumeric_newline : Text.isAlphanumeric '\n' = false := by decide +kernel

theorem newline_not_mem_of_isTagName {tag : String} (h : isTagName tag = true) :
    '\n' ∉ tag.toList := by
  intro hmem
  rw [isTagName, Bool.and_eq_true, List.all_eq_true] at h
  have hnewline := h.2 '\n' (List.mem_filter.mpr ⟨hmem, by decide⟩)
  rw [isAlphanumeric_newline] at hnewline
  cases hnewline

theorem newline_not_mem_tags {r : Request} {o : Options} (h : r.read = .ok o) :
    ∀ tag ∈ o.extraTags.keys, '\n' ∉ tag.toList := by
  obtain ⟨_, _, hreads⟩ := reads_of_read h
  exact fun tag htag =>
    newline_not_mem_of_isTagName (isTagName_of_readExtraTags hreads.extraTags tag htag)

theorem parameterHook_of_read {r : Request} {o : Options} (h : r.read = .ok o)
    {hook : ParameterHook} (hhook : o.parameterHook = some hook) :
    r.parameterHook = .callable hook := by
  obtain ⟨_, _, hreads⟩ := reads_of_read h
  have hread := hreads.parameterHook
  rw [hhook] at hread
  exact readHook_some hread

end Options
end RBinding
