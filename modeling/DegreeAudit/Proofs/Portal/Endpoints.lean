import DegreeAudit.Portal.Session
import DegreeAudit.Proofs.Url.Directory

/-!
# Where the pages of a portal are

All pages of a portal stand in the directory of its base, at the base's own host and under fixed
names: `ofBase_liesUnder`. A base that goes on to its end as a path is itself that directory, since
it is read with a slash behind it; so no page is looked for anywhere else than below the base, and
of the four pages only that of the affiliations is taken for it.
-/

namespace DegreeAudit

open Url

/-- The pages are those of a portal whose base was written as a text and read as an address. -/
structure Endpoints.LiesUnder (text : String) (base : Url) (pages : Endpoints) : Prop where
  login : Beside base "index.jsf" pages.login
  affiliations : Beside base "vinculos.jsf" pages.affiliations
  summary : Beside base "portal/discente/integralizacao/" pages.summary
  data : Beside base "portal/discente/integralizacao/dados/" pages.data
  /-- Without a query and a fragment, the base has nothing behind its directory. -/
  whole : (∀ c ∈ text.toList, c ≠ '?' ∧ c ≠ '#') → base.directory = base.path.toText
  /-- Only the page of the affiliations is taken for it. -/
  told : Portal.isAffiliationsPage pages.affiliations = true ∧
    Portal.isAffiliationsPage pages.login = false ∧
    Portal.isAffiliationsPage pages.summary = false ∧ Portal.isAffiliationsPage pages.data = false

namespace Endpoints

variable {base page : Url} {text : String}

theorem getLast?_slashed (text : String) : (slashed text).toList.getLast? = some '/' := by
  unfold slashed
  split
  next h => exact h
  next => simp

theorem endsPath_of_mem_slashed (htext : ∀ c ∈ text.toList, c ≠ '?' ∧ c ≠ '#') :
    ∀ c ∈ (slashed text).toList, endsPath c = false := by
  have hends : ∀ c ∈ text.toList, endsPath c = false := by
    intro c hc
    simp [endsPath, htext c hc]
  unfold slashed
  split
  next => exact hends
  next =>
    rw [String.toList_append, List.forall_mem_append]
    exact ⟨hends, by simp [endsPath]⟩

/-- All four names can be joined with a base of the web. -/
theorem exists_under (hweb : IsWeb base.scheme) (hcut : base.IsCut) :
    ∃ pages, under base = .ok pages ∧ Beside base loginPath pages.login ∧
      Beside base affiliationsPath pages.affiliations ∧ Beside base summaryPath pages.summary ∧
      Beside base dataPath pages.data := by
  obtain ⟨login, hjoinLogin, hlogin⟩ :=
    exists_join_beside hweb hcut loginPath (by decide +kernel)
  obtain ⟨affiliations, hjoinAffiliations, haffiliations⟩ :=
    exists_join_beside hweb hcut affiliationsPath (by decide +kernel)
  obtain ⟨summary, hjoinSummary, hsummary⟩ :=
    exists_join_beside hweb hcut summaryPath (by decide +kernel)
  obtain ⟨data, hjoinData, hdata⟩ :=
    exists_join_beside hweb hcut dataPath (by decide +kernel)
  refine ⟨⟨login, affiliations, summary, data⟩, ?_, hlogin, haffiliations, hsummary, hdata⟩
  rw [under, hjoinLogin, hjoinAffiliations, hjoinSummary, hjoinData]
  rfl

/-- The end of its path tells a page of the affiliations, so the end of its name comes first. -/
theorem isAffiliationsPage_of_beside {name : String} (h : Beside base name page) :
    Portal.isAffiliationsPage page =
      affiliationsPath.toList.reverse.isPrefixOf
        (name.toList.reverse ++ base.directory.toList.reverse) := by
  rw [Portal.isAffiliationsPage, h.path, String.toList_append, List.isSuffixOf,
    List.reverse_append]

/-- Every base of the web gives pages below it. -/
theorem ofBase_liesUnder (hread : Url.ofText (slashed text) = .ok base)
    (hweb : IsWeb base.scheme) : ∃ pages, ofBase text = .ok pages ∧ LiesUnder text base pages := by
  obtain ⟨pages, hunder, hlogin, haffiliations, hsummary, hdata⟩ :=
    exists_under hweb (isCut_of_ofText hread hweb)
  refine ⟨pages, ?_, hlogin, haffiliations, hsummary, hdata, ?_, ?_, ?_, ?_, ?_⟩
  · rw [ofBase, hread]
    dsimp only
    rw [hunder]
    rfl
  · intro htext
    exact directory_eq_of_ofText hread hweb (getLast?_slashed text)
      (endsPath_of_mem_slashed htext)
  · rw [isAffiliationsPage_of_beside haffiliations]
    rfl
  · rw [isAffiliationsPage_of_beside hlogin]
    rfl
  · rw [isAffiliationsPage_of_beside hsummary]
    rfl
  · rw [isAffiliationsPage_of_beside hdata]
    rfl

/-- A base with a user, a port, dots, breaks and slashes of the other kind, and one with a query. -/
theorem ofBase_liesUnder_of_dotted :
    let dotted := "http:\\\\ana:s%20@[::1]:8080/a/..\\x\ty/%2E/sigaa"
    let queried := "https://[::2]/sigaa/home?de=/a"
    (∃ base pages, Url.ofText (slashed dotted) = .ok base ∧ base.scheme = "http" ∧
      base.directory = "/xy/sigaa/" ∧ ofBase dotted = .ok pages ∧ LiesUnder dotted base pages) ∧
    ∃ base pages, Url.ofText (slashed queried) = .ok base ∧ base.scheme = "https" ∧
      base.directory = "/sigaa/" ∧ ofBase queried = .ok pages ∧ LiesUnder queried base pages := by
  intro dotted queried
  have hlies : ∀ {text scheme directory : String},
      (Url.ofText (slashed text)).toOption.any (fun base =>
        base.scheme == scheme && base.directory == directory) = true → IsWeb scheme →
      ∃ base pages, Url.ofText (slashed text) = .ok base ∧ base.scheme = scheme ∧
        base.directory = directory ∧ ofBase text = .ok pages ∧ LiesUnder text base pages := by
    intro text scheme directory hevaluated hweb
    cases hread : Url.ofText (slashed text) with
    | error fault =>
        rw [hread] at hevaluated
        cases hevaluated
    | ok base =>
        rw [hread] at hevaluated
        obtain ⟨hscheme, hdirectory⟩ : base.scheme = scheme ∧ base.directory = directory := by
          simpa [Except.toOption] using hevaluated
        obtain ⟨pages, hpages⟩ := ofBase_liesUnder hread (hscheme ▸ hweb)
        exact ⟨base, pages, rfl, hscheme, hdirectory, hpages⟩
  exact ⟨hlies (by decide +kernel) (.inl rfl), hlies (by decide +kernel) (.inr rfl)⟩

end Endpoints

end DegreeAudit
