import DegreeAudit.Files.Path
import Mathlib.Data.List.Induction

/-!
# What paths mean and what writing changes

A path means a place: all names but the last lead, folder by folder, to where the last one stands.
`Means` says so without the order in which paths are checked. `write_eq_ok_iff` and
`make_eq_ok_iff` say exactly when a text is written or a folder made, and that the one thing that
happens is a `put` at the place that the path means. So whatever else is known of writing is a fact
about `put`, and all of it rests on one invariant: everything stands in a folder, `IsTree`.
-/

namespace DegreeAudit.Folder

/-! ### Ways -/

/-- Names lead from one place to another. -/
inductive Leads (f : Folder) : Place → List String → Place → Prop where
  | arrived {place} : Leads f place [] place
  | stay {place rest target} (hrest : Leads f place rest target) :
      Leads f place ("." :: rest) target
  | back {place rest target} (hrest : Leads f (List.dropLast place) rest target) :
      Leads f place (".." :: rest) target
  | into {place name rest target} (hdot : name ≠ ".") (hdots : name ≠ "..")
      (hshort : name.utf8ByteSize ≤ maxName) (hfolder : f.get? (place ++ [name]) = some .folder)
      (hrest : Leads f (place ++ [name]) rest target) : Leads f place (name :: rest) target

variable {f g : Folder} {place target dir : Place} {path text name : String} {names : List String}

theorem look_of_short (f : Folder) (place : Place) (h : name.utf8ByteSize ≤ maxName) :
    f.look place name = .ok (f.get? (place ++ [name])) :=
  if_neg (Nat.not_lt.2 h)

theorem look_of_long (f : Folder) (place : Place) (h : ¬name.utf8ByteSize ≤ maxName) :
    f.look place name = .error .nameTooLong :=
  if_pos (Nat.lt_of_not_le h)

theorem enter_of_folder (hdot : name ≠ ".") (hdots : name ≠ "..")
    (hshort : name.utf8ByteSize ≤ maxName) (hfolder : f.get? (place ++ [name]) = some .folder) :
    f.enter place name = .ok (place ++ [name]) := by
  unfold enter
  rw [if_neg hdot, if_neg hdots, look_of_short f place hshort, hfolder]
  rfl

/-- Only a folder can be entered. -/
theorem enter_eq_ok (hdot : name ≠ ".") (hdots : name ≠ "..")
    (h : f.enter place name = .ok target) :
    name.utf8ByteSize ≤ maxName ∧ f.get? (place ++ [name]) = some .folder ∧
      target = place ++ [name] := by
  unfold enter at h
  rw [if_neg hdot, if_neg hdots] at h
  by_cases hshort : name.utf8ByteSize ≤ maxName
  · rw [look_of_short f place hshort] at h
    cases hentry : f.get? (place ++ [name]) with
    | none =>
        rw [hentry] at h
        cases h
    | some entry =>
        rw [hentry] at h
        cases entry with
        | file text => cases h
        | folder => exact ⟨hshort, rfl, (Except.ok.inj h).symm⟩
  · rw [look_of_long f place hshort] at h
    cases h

theorem walk_eq_ok_iff : f.walk place names = .ok target ↔ f.Leads place names target := by
  constructor
  · intro h
    induction names generalizing place with
    | nil =>
        cases h
        exact .arrived
    | cons name rest ih =>
        by_cases hdot : name = "."
        · subst hdot
          exact .stay (ih h)
        by_cases hdots : name = ".."
        · subst hdots
          exact .back (ih h)
        cases henter : f.enter place name with
        | error fault =>
            rw [walk, henter] at h
            cases h
        | ok next =>
            rw [walk, henter] at h
            obtain ⟨hshort, hfolder, rfl⟩ := enter_eq_ok hdot hdots henter
            exact .into hdot hdots hshort hfolder (ih h)
  · intro h
    induction h with
    | arrived => rfl
    | stay _ ih | back _ ih => exact ih
    | into hdot hdots hshort hfolder _ ih =>
        rw [walk, enter_of_folder hdot hdots hshort hfolder]
        exact ih

/-- A way stays open as long as no folder goes away. -/
theorem Leads.mono (h : f.Leads place names target)
    (hfolders : ∀ other, f.get? other = some .folder → g.get? other = some .folder) :
    g.Leads place names target := by
  induction h with
  | arrived => exact .arrived
  | stay _ ih => exact .stay ih
  | back _ ih => exact .back ih
  | into hdot hdots hshort hfolder _ ih => exact .into hdot hdots hshort (hfolders _ hfolder) ih

/-- Where there is no folder but the top, every way ends there. -/
theorem Leads.eq_nil (h : f.Leads place names target) (hplace : place = [])
    (htop : ∀ other, f.get? other = some .folder → other = []) : target = [] := by
  induction h with
  | arrived => exact hplace
  | stay _ ih => exact ih hplace
  | back _ ih =>
      subst hplace
      exact ih rfl
  | into _ _ _ hfolder _ _ => simpa using htop _ hfolder

/-! ### Paths -/

/-- A path that can be looked at. -/
structure IsUsable (path : String) : Prop where
  noNul : '\x00' ∉ path.toList
  nonempty : path ≠ ""
  short : path.utf8ByteSize ≤ maxPath

/-- The path means what stands under the name in the folder at the place. -/
structure Means (f : Folder) (path : String) (dir : Place) (name : String) : Prop where
  usable : IsUsable path
  last : (Folder.names path).getLast? = some name
  plain : name ≠ "." ∧ name ≠ ".."
  short : name.utf8ByteSize ≤ maxName
  leads : f.Leads [] (Folder.names path).dropLast dir

/-- A text can be written to the path: the path means no folder, there or by its end. -/
def CanWrite (f : Folder) (path : String) : Prop :=
  ∃ dir name, f.Means path dir name ∧ path.toList.getLast? ≠ some '/' ∧
    f.get? (dir ++ [name]) ≠ some .folder

/-- A folder can be made at the path: nothing stands there. -/
def CanMake (f : Folder) (path : String) : Prop :=
  ∃ dir name, f.Means path dir name ∧ f.get? (dir ++ [name]) = none

theorem locate_eq_ok_iff {last : Option String} :
    f.locate path = .ok (dir, last) ↔
      IsUsable path ∧ f.Leads [] (Folder.names path).dropLast dir ∧
        (Folder.names path).getLast? = last := by
  unfold locate
  constructor
  · intro h
    split at h
    · cases h
    next hnul =>
    split at h
    · cases h
    next hempty =>
    split at h
    · cases h
    next hlong =>
    cases hwalk : f.walk [] (Folder.names path).dropLast with
    | error fault =>
        rw [hwalk] at h
        cases h
    | ok place =>
        rw [hwalk] at h
        cases h
        refine ⟨⟨?_, ?_, Nat.le_of_not_lt hlong⟩, walk_eq_ok_iff.1 hwalk, rfl⟩
        · simpa using hnul
        · simpa using hempty
  · rintro ⟨⟨hnul, hempty, hshort⟩, hleads, rfl⟩
    rw [if_neg (by simpa using hnul), if_neg (by simpa using hempty),
      if_neg (Nat.not_lt.2 hshort), walk_eq_ok_iff.2 hleads]
    rfl

theorem endsInFolder_eq_false_iff :
    endsInFolder path = false ↔ path.toList.getLast? ≠ some '/' ∧
      ∃ name, (Folder.names path).getLast? = some name ∧ name ≠ "." ∧ name ≠ ".." := by
  unfold endsInFolder
  cases hlast : (Folder.names path).getLast? with
  | none => simp
  | some name => simp

/-- A text is written exactly where the path means a file or nothing yet, and it is put there. -/
theorem write_eq_ok_iff :
    f.write path text = .ok g ↔
      ∃ dir name, f.Means path dir name ∧ path.toList.getLast? ≠ some '/' ∧
        f.get? (dir ++ [name]) ≠ some .folder ∧ g = f.put (dir ++ [name]) (.file text) := by
  unfold write
  constructor
  · intro h
    cases hlocate : f.locate path with
    | error fault =>
        rw [hlocate] at h
        cases h
    | ok found =>
        obtain ⟨dir, last⟩ := found
        rw [hlocate] at h
        obtain ⟨husable, hleads, hlast⟩ := locate_eq_ok_iff.1 hlocate
        cases last with
        | none => cases h
        | some name =>
            dsimp only [Except.bind] at h
            cases hends : endsInFolder path with
            | true =>
                rw [hends] at h
                cases h
            | false =>
                obtain ⟨hslash, other, hother, hplain⟩ := endsInFolder_eq_false_iff.1 hends
                obtain rfl : name = other := by simpa [hlast] using hother
                rw [hends] at h
                by_cases hshort : name.utf8ByteSize ≤ maxName
                · rw [look_of_short f dir hshort] at h
                  refine ⟨dir, name, ⟨husable, hlast, hplain, hshort, hleads⟩, hslash, ?_⟩
                  cases hentry : f.get? (dir ++ [name]) with
                  | none =>
                      rw [hentry] at h
                      exact ⟨nofun, (Except.ok.inj h).symm⟩
                  | some entry =>
                      rw [hentry] at h
                      cases entry with
                      | file old => exact ⟨nofun, (Except.ok.inj h).symm⟩
                      | folder => cases h
                · rw [look_of_long f dir hshort] at h
                  cases h
  · rintro ⟨dir, name, ⟨husable, hlast, hplain, hshort, hleads⟩, hslash, hentry, rfl⟩
    have hends : endsInFolder path = false :=
      endsInFolder_eq_false_iff.2 ⟨hslash, name, hlast, hplain⟩
    rw [locate_eq_ok_iff.2 ⟨husable, hleads, hlast⟩]
    dsimp only [Except.bind]
    rw [hends, look_of_short f dir hshort]
    cases hold : f.get? (dir ++ [name]) with
    | none => rfl
    | some entry =>
        cases entry with
        | file old => rfl
        | folder => exact absurd hold hentry

/-- A folder is made exactly where nothing stands yet, and it is put there. -/
theorem make_eq_ok_iff :
    f.make path = .ok g ↔
      ∃ dir name, f.Means path dir name ∧ f.get? (dir ++ [name]) = none ∧
        g = f.put (dir ++ [name]) .folder := by
  unfold make
  constructor
  · intro h
    cases hlocate : f.locate path with
    | error fault =>
        rw [hlocate] at h
        cases h
    | ok found =>
        obtain ⟨dir, last⟩ := found
        rw [hlocate] at h
        obtain ⟨husable, hleads, hlast⟩ := locate_eq_ok_iff.1 hlocate
        cases last with
        | none => cases h
        | some name =>
            dsimp only [Except.bind] at h
            split at h
            · cases h
            next hplain =>
            rw [not_or] at hplain
            by_cases hshort : name.utf8ByteSize ≤ maxName
            · rw [look_of_short f dir hshort] at h
              refine ⟨dir, name, ⟨husable, hlast, hplain, hshort, hleads⟩, ?_⟩
              cases hentry : f.get? (dir ++ [name]) with
              | none =>
                  rw [hentry] at h
                  exact ⟨rfl, (Except.ok.inj h).symm⟩
              | some entry =>
                  rw [hentry] at h
                  cases h
            · rw [look_of_long f dir hshort] at h
              cases h
  · rintro ⟨dir, name, ⟨husable, hlast, hplain, hshort, hleads⟩, hentry, rfl⟩
    rw [locate_eq_ok_iff.2 ⟨husable, hleads, hlast⟩]
    dsimp only [Except.bind]
    rw [if_neg (not_or.2 hplain), look_of_short f dir hshort, hentry]

/-! ### Trees -/

/-- Whatever is there stands in a folder. -/
def IsTree (f : Folder) : Prop :=
  ∀ place name, f.get? (place ++ [name]) ≠ none → f.get? place = some .folder

theorem get?_empty (h : place ≠ []) : Folder.empty.get? place = none := by
  cases place with
  | nil => exact absurd rfl h
  | cons name rest => rfl

theorem isTree_empty : Folder.empty.IsTree := by
  intro place name h
  exact absurd (get?_empty (List.append_ne_nil_of_right_ne_nil place (List.cons_ne_nil name []))) h

namespace IsTree

/-- Nothing stands below what is no folder. -/
theorem get?_below (h : f.IsTree) (hplace : f.get? place ≠ some .folder) (first : String)
    (rest : List String) : f.get? (place ++ first :: rest) = none := by
  induction rest using List.reverseRecOn with
  | nil =>
      by_contra hsome
      exact hplace (h place first hsome)
  | append_singleton rest last ih =>
      by_contra hsome
      rw [← List.cons_append, ← List.append_assoc] at hsome
      have hfolder := h _ last hsome
      rw [ih] at hfolder
      cases hfolder

/-- Names lead from a folder to a folder. -/
theorem get?_of_leads (h : f.IsTree) (hleads : f.Leads place names target)
    (hplace : f.get? place = some .folder) : f.get? target = some .folder := by
  induction hleads with
  | arrived => exact hplace
  | stay _ ih => exact ih hplace
  | @back place rest target _ ih =>
      apply ih
      cases hback : place using List.reverseRecOn with
      | nil => rfl
      | append_singleton front last =>
          rw [List.dropLast_concat]
          apply h front last
          rw [← hback, hplace]
          exact Option.some_ne_none _
  | into _ _ _ hfolder _ ih => exact ih hfolder

theorem get?_of_means (h : f.IsTree) (hmeans : f.Means path dir name) :
    f.get? dir = some .folder :=
  h.get?_of_leads hmeans.leads rfl

end IsTree

/-! ### Changes -/

/-- The one change is that the file at the place holds the text. -/
structure Rewritten (before : Folder) (place : Place) (text : String) (after : Folder) : Prop where
  here : after.get? place = some (.file text)
  elsewhere : ∀ other, other ≠ place → after.get? other = before.get? other
  folders : ∀ other, after.get? other = some .folder ↔ before.get? other = some .folder

/-- The one change is that there is a folder at the place, with nothing in it. -/
structure Extended (before : Folder) (place : Place) (after : Folder) : Prop where
  absent : before.get? place = none
  here : after.get? place = some .folder
  bare : ∀ first rest, after.get? (place ++ first :: rest) = none
  elsewhere : ∀ other, other ≠ place → after.get? other = before.get? other

theorem rewritten_put (hplace : place ≠ []) (hentry : f.get? place ≠ some .folder) :
    f.Rewritten place text (f.put place (.file text)) where
  here := by rw [get?_put hplace, if_pos rfl]
  elsewhere other hother := by rw [get?_put hplace, if_neg hother]
  folders other := by
    rw [get?_put hplace]
    split
    next heq => simp [heq, hentry]
    next => rfl

theorem IsTree.extended_put (h : f.IsTree) (hplace : place ≠ []) (hentry : f.get? place = none) :
    f.Extended place (f.put place .folder) where
  absent := hentry
  here := by rw [get?_put hplace, if_pos rfl]
  bare first rest := by
    rw [get?_put hplace, if_neg (by simp)]
    apply h.get?_below
    rw [hentry]
    nofun
  elsewhere other hother := by rw [get?_put hplace, if_neg hother]

/-- A tree stays one when a file in a folder of it is written. -/
theorem Rewritten.isTree (h : f.Rewritten (dir ++ [name]) text g) (hf : f.IsTree)
    (hdir : f.get? dir = some .folder) : g.IsTree := by
  intro place other hsome
  rw [h.folders]
  by_cases heq : place ++ [other] = dir ++ [name]
  · rw [(List.append_inj' heq rfl).1, hdir]
  · rw [h.elsewhere _ heq] at hsome
    exact hf place other hsome

/-- A tree stays one when a folder is made in a folder of it. -/
theorem Extended.isTree (h : f.Extended (dir ++ [name]) g) (hf : f.IsTree)
    (hdir : f.get? dir = some .folder) : g.IsTree := by
  intro place other hsome
  have hplace : f.get? place = some .folder := by
    by_cases heq : place ++ [other] = dir ++ [name]
    · rw [(List.append_inj' heq rfl).1, hdir]
    · rw [h.elsewhere _ heq] at hsome
      exact hf place other hsome
  have hother : place ≠ dir ++ [name] := by
    rintro rfl
    rw [h.absent] at hplace
    cases hplace
  rw [h.elsewhere place hother, hplace]

/-! ### Folders without folders -/

/-- The folder holds the files and nothing else; of two at one place the first counts. -/
def Holds (f : Folder) (files : List (Place × String)) : Prop :=
  ∀ place, place ≠ [] → f.get? place = (files.lookup place).map .file

theorem holds_empty : Folder.empty.Holds [] := fun _ => get?_empty

namespace Holds

variable {files : List (Place × String)}

theorem eq_nil_of_folder (h : f.Holds files) (hplace : f.get? place = some .folder) :
    place = [] := by
  by_contra hne
  rw [h place hne] at hplace
  cases hfound : files.lookup place <;> simp [hfound] at hplace

/-- A path means a file at the top, and the same one whatever files there are. -/
theorem means_iff (h : f.Holds files) :
    f.Means path dir name ↔ dir = [] ∧ Folder.empty.Means path [] name := by
  constructor
  · intro hmeans
    obtain rfl := hmeans.leads.eq_nil rfl fun _ => h.eq_nil_of_folder
    refine ⟨rfl, hmeans.usable, hmeans.last, hmeans.plain, hmeans.short, ?_⟩
    refine hmeans.leads.mono fun other hother => ?_
    rw [h.eq_nil_of_folder hother]
    rfl
  · rintro ⟨rfl, hmeans⟩
    refine ⟨hmeans.usable, hmeans.last, hmeans.plain, hmeans.short, ?_⟩
    refine hmeans.leads.mono fun other hother => ?_
    have htop : other = [] := by
      by_contra hne
      rw [get?_empty hne] at hother
      cases hother
    rw [htop]
    rfl

theorem canWrite_iff (h : f.Holds files) : f.CanWrite path ↔ Folder.empty.CanWrite path := by
  have hnone (name : String) : f.get? ([] ++ [name]) ≠ some .folder := fun hfolder =>
    List.cons_ne_nil name [] (h.eq_nil_of_folder hfolder)
  constructor
  · rintro ⟨dir, name, hmeans, hslash, -⟩
    exact ⟨[], name, (h.means_iff.1 hmeans).2, hslash, nofun⟩
  · rintro ⟨dir, name, hmeans, hslash, -⟩
    obtain ⟨rfl, hmeans⟩ := holds_empty.means_iff.1 hmeans
    exact ⟨[], name, h.means_iff.2 ⟨rfl, hmeans⟩, hslash, hnone name⟩

theorem rewritten (h : f.Holds files) (hwritten : f.Rewritten place text g) :
    g.Holds ((place, text) :: files) := by
  intro other hother
  rw [List.lookup_cons]
  by_cases heq : other = place
  · rw [heq, hwritten.here, beq_self_eq_true]
    rfl
  · rw [hwritten.elsewhere other heq, h other hother, beq_eq_false_iff_ne.2 heq]

end Holds

end DegreeAudit.Folder
