import DegreeAudit.Url.Reader

/-!
# Where paths begin

An address of the web that has been read begins its path with a slash, whatever text it was read
from and whatever address it was written relative to: `hasRoot_ofText` and `HasRoot.join`. The
readers of paths add at least one segment, and what is taken over from another address of the web
has its slash from there.
-/

namespace DegreeAudit.Url

/-- If the rules of the web apply to the address, its path has a segment. -/
def HasRoot (url : Url) : Prop :=
  isSpecialScheme url.scheme = true → ∃ segment rest, url.path = .segments (segment :: rest)

variable {base url : Url} {scheme : String} {path : List String} {s : List Char}

/-! ### Paths -/

theorem addSegments_ne_nil (file : Bool) (path : List String) {segments : List String}
    (h : segments ≠ []) : addSegments file path segments ≠ [] := by
  induction segments generalizing path with
  | nil => exact absurd rfl h
  | cons segment rest ih =>
      cases rest with
      | cons next rest => exact ih _ (List.cons_ne_nil _ _)
      | nil =>
          unfold addSegments addSegments
          dsimp only [List.isEmpty_nil, if_true]
          split
          · simp
          split
          · simp
          split <;> simp

theorem readSegments_ne_nil (special : Bool) (s : List Char) : readSegments special s ≠ [] := by
  unfold readSegments
  rw [ne_eq, List.map_eq_nil_iff]
  exact List.splitOnP_ne_nil _ _

theorem extendPath_ne_nil (scheme : String) (path : List String) (s : List Char) :
    extendPath scheme path s ≠ [] := by
  unfold extendPath
  dsimp only
  split
  · split
    next => exact List.cons_ne_nil _ _
    next h => exact h
  · exact addSegments_ne_nil _ _ (readSegments_ne_nil _ s)

theorem hasRoot_withPath {authority : Option Authority} :
    (withPath scheme authority path s).HasRoot := by
  intro _
  obtain ⟨segment, rest, hpath⟩ :=
    List.exists_cons_of_ne_nil (extendPath_ne_nil scheme path (s.takeWhile (!endsPath ·)))
  refine ⟨segment, rest, ?_⟩
  unfold withPath
  dsimp only
  rw [hpath]

/-! ### Addresses -/

theorem hasRoot_of_readAfterSlashes (h : readAfterSlashes scheme s = .ok url) : url.HasRoot := by
  unfold readAfterSlashes at h
  cases hread : readAuthority scheme s with
  | error fault =>
      rw [hread] at h
      cases h
  | ok found =>
      obtain ⟨authority, rest⟩ := found
      rw [hread] at h
      dsimp only [Except.map] at h
      -- only an address of no special kind can end with its host
      split at h
      next c tail =>
        split at h
        · cases h
          exact hasRoot_withPath
        split at h
        · cases h
          exact hasRoot_withPath
        next hother =>
          cases h
          exact fun hspecial => absurd (.inl hspecial) hother
      next =>
        split at h
        · cases h
          exact hasRoot_withPath
        next hother =>
          cases h
          exact fun hspecial => absurd hspecial hother

theorem hasRoot_of_readOther (hscheme : isSpecialScheme scheme = false)
    (h : readOther scheme s = .ok url) : url.HasRoot := by
  unfold readOther at h
  split at h
  next rest => exact hasRoot_of_readAfterSlashes h
  next rest =>
    cases h
    exact hasRoot_withPath
  next =>
    cases h
    intro hspecial
    cases hscheme.symm.trans hspecial

theorem HasRoot.readRelative (hbase : base.HasRoot) (h : readRelative base path s = .ok url) :
    url.HasRoot := by
  unfold Url.readRelative at h
  dsimp only at h
  split at h
  next =>
    cases h
    exact hbase
  next =>
    cases h
    exact hbase
  next =>
    cases h
    exact hbase
  next c rest =>
    split at h
    · split at h
      · split at h
        · exact hasRoot_of_readAfterSlashes h
        · cases h
          exact hasRoot_withPath
      · cases h
        exact hasRoot_withPath
    · cases h
      exact hasRoot_withPath

theorem hasRoot_relative (base : Option Url) (hbase : ∀ other ∈ base, HasRoot other)
    (s : List Char) : (readFile.relative base s).HasRoot := by
  unfold readFile.relative
  cases base with
  | none => exact hasRoot_withPath
  | some other =>
      have hother := hbase other rfl
      dsimp only
      split
      · exact hother
      · exact hother
      · exact hother
      · split
        · exact hasRoot_withPath
        · exact hasRoot_withPath

theorem hasRoot_of_readFile {base : Option Url} (hbase : ∀ other ∈ base, HasRoot other)
    (h : readFile base s = .ok url) : url.HasRoot := by
  unfold readFile at h
  split at h
  next c rest =>
    split at h
    · split at h
      next c' rest' =>
        split at h
        · dsimp only at h
          split at h
          · cases h
            exact hasRoot_withPath
          · cases hhost : readFileHost (rest'.takeWhile (!endsAuthority true ·)) with
            | error fault =>
                rw [hhost] at h
                cases h
            | ok host =>
                rw [hhost] at h
                cases h
                exact hasRoot_withPath
        · cases h
          exact hasRoot_withPath
      next =>
        cases h
        exact hasRoot_withPath
    · cases h
      exact hasRoot_relative base hbase _
  next =>
    cases h
    exact hasRoot_relative base hbase _

theorem hasRoot_of_readWith {base : Option Url} (hbase : ∀ other ∈ base, HasRoot other)
    (h : readWith base s = .ok url) : url.HasRoot := by
  unfold readWith at h
  split at h
  next scheme rest hsplit =>
    split at h
    · refine hasRoot_of_readFile ?_ h
      intro other hother
      exact hbase other (Option.mem_filter_iff.1 hother).1
    split at h
    · split at h
      next other =>
        dsimp only at h
        split at h
        next list hlist =>
          split at h
          · exact (hbase other rfl).readRelative h
          · exact hasRoot_of_readAfterSlashes h
        next => exact hasRoot_of_readAfterSlashes h
      next => exact hasRoot_of_readAfterSlashes h
    next hspecial => exact hasRoot_of_readOther (by simpa using hspecial) h
  next =>
    split at h
    · cases h
    next other =>
      split at h
      · split at h
        · cases h
          exact hbase other rfl
        · cases h
      · split at h
        · exact hasRoot_of_readFile hbase h
        · exact (hbase other rfl).readRelative h

theorem hasRoot_ofText {text : String} (h : ofText text = .ok url) : url.HasRoot :=
  hasRoot_of_readWith (fun _ hother => absurd hother (Option.not_mem_none _)) h

theorem HasRoot.join {text : String} (hbase : base.HasRoot) (h : base.join text = .ok url) :
    url.HasRoot := by
  refine hasRoot_of_readWith ?_ h
  intro other hother
  cases hother
  exact hbase

end DegreeAudit.Url
