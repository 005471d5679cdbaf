import DegreeAudit.Export.Report.Reader
import DegreeAudit.Proofs.Curriculum.Progress
import DegreeAudit.Proofs.Order.Gathering

/-!
# What the text of a report tells

Names are written as they are, so a name can look like any line of a report: like a heading, a
count, a bullet or the placeholder. As long as every name stays on its line, the text tells the
report all the same: `render_tells`.

Two facts carry this. The counts stand above all names, so that the first line with the label of a
count is that count; and a name stands behind a bullet, so that its line is no heading and no
placeholder. The reader goes by the counts (`read?_render`), while `below` and `printed?` look at
the text like someone who leafs through it, by headings and labels alone.
-/

namespace DegreeAudit

namespace Report

/-- A text without a line break. -/
def IsOneLine (line : String) : Prop := '\n' ∉ line.toList

instance (line : String) : Decidable (IsOneLine line) :=
  inferInstanceAs (Decidable ('\n' ∉ line.toList))

def IsOneLined (r : Report) : Prop :=
  ∀ name ∈ r.progress.completed ++ r.progress.pending, IsOneLine name

instance (r : Report) : Decidable r.IsOneLined :=
  inferInstanceAs (Decidable (∀ name ∈ _, IsOneLine name))

def isHeading (line : String) : Bool := (after? "## " line).isSome

def isBullet (line : String) : Bool := (after? bullet line).isSome

/-- The lines from the first line that is a heading to the next heading. -/
def below (heading text : String) : List String :=
  (((textLines text).dropWhile (· != heading)).drop 1).takeWhile fun line => !isHeading line

def printed? (label text : String) : Option Nat := (textLines text).findSome? (count? label)

/-- The section below a heading shows a list of names, and the count with a label counts it. -/
structure Shows (text heading label : String) (names : List String) : Prop where
  counted : printed? label text = some ((below heading text).countP isBullet)
  bulleted : (below heading text).filter isBullet = names.map (bullet ++ ·)
  placeheld : placeholder ∈ below heading text ↔ names = []

/-- A text from which all of a report can be told. -/
structure Tells (text : String) (r : Report) : Prop where
  read : read? text = some r
  alone : ∀ other : Report, other.IsOneLined → other.render = text → other = r
  total : printed? totalLabel text = some r.total
  completed : Shows text completedHeading completedLabel r.progress.completed
  pending : Shows text pendingHeading pendingLabel r.progress.pending

/-- The two lists are counted as no more than all components together. -/
def CountsFit (text : String) : Prop :=
  ∃ total completed pending, printed? totalLabel text = some total ∧
    printed? completedLabel text = some completed ∧ printed? pendingLabel text = some pending ∧
    completed + pending ≤ total

variable {r : Report} {line other label heading text : String} {names : List String} {n : Nat}

/-! ### Beginnings of lines -/

/-- Neither text begins with the other. -/
def Apart (line other : String) : Prop :=
  ¬line.toList <+: other.toList ∧ ¬other.toList <+: line.toList

instance : Decidable (Apart line other) := inferInstanceAs (Decidable (_ ∧ _))

theorem after?_append (beginning rest : String) :
    after? beginning (beginning ++ rest) = some rest := by
  simp [after?]

theorem after?_append_of_apart (h : Apart line other) (rest : String) :
    after? line (other ++ rest) = none := by
  unfold after?
  rw [if_neg]
  rw [List.isPrefixOf_iff_prefix, String.toList_append]
  intro hprefix
  rcases List.prefix_or_prefix_of_prefix hprefix (List.prefix_append _ _) with hline | hother
  · exact h.1 hline
  · exact h.2 hother

theorem isDigit_of_mem_toString {c : Char} (h : c ∈ (toString n).toList) : c.isDigit = true := by
  have hdigit : c ∈ Nat.toDigits 10 n := by simpa using h
  exact Nat.isDigit_of_mem_toDigits (by decide) (by decide) hdigit

theorem number?_toString (n : Nat) : number? (toString n) = some n := by
  have hdigits : (toString n).toList.all Char.isDigit = true :=
    List.all_eq_true.2 fun c hc => isDigit_of_mem_toString hc
  have hne : (toString n).isEmpty = false := by simp
  rw [number?, hdigits, hne, if_neg (by decide)]
  simp

theorem count?_append_toString (label : String) (n : Nat) :
    count? label (label ++ toString n) = some n := by
  rw [count?, after?_append]
  exact number?_toString n

theorem count?_append_of_apart (h : Apart label other) (rest : String) :
    count? label (other ++ rest) = none := by
  rw [count?, after?_append_of_apart h]
  rfl

theorem isHeading_append_of_apart (h : Apart "## " line) (rest : String) :
    isHeading (line ++ rest) = false := by
  rw [isHeading, after?_append_of_apart h]
  rfl

theorem isBullet_append (rest : String) : isBullet (bullet ++ rest) = true := by
  rw [isBullet, after?_append]
  rfl

/-! ### Lines of a text -/

theorem textLines_cons (h : IsOneLine line) (more : String) :
    textLines (line ++ "\n" ++ more) = line :: textLines more := by
  have hsplit : (line ++ "\n" ++ more).toList.splitOn '\n'
      = line.toList :: more.toList.splitOn '\n' := by
    rw [String.toList_append, String.toList_append, List.append_assoc]
    exact List.splitOn_append_cons_self_of_not_mem h _
  have hmore : (more.toList.splitOn '\n').map String.ofList ≠ [] := by
    rw [Ne, List.map_eq_nil_iff]
    exact List.splitOnP_ne_nil _ _
  rw [textLines, hsplit, List.map_cons, List.dropLast_cons_of_ne_nil hmore, String.ofList_toList,
    textLines]

theorem textLines_join_append {lines : List String} (h : ∀ line ∈ lines, IsOneLine line)
    (more : String) :
    textLines (String.join (lines.map (· ++ "\n")) ++ more) = lines ++ textLines more := by
  induction lines with
  | nil => simp
  | cons line rest ih =>
      obtain ⟨hline, hrest⟩ := List.forall_mem_cons.1 h
      rw [List.map_cons, String.join_cons, String.append_assoc, textLines_cons hline, ih hrest]
      rfl

theorem isOneLine_append (hline : IsOneLine line) (hother : IsOneLine other) :
    IsOneLine (line ++ other) := by
  unfold IsOneLine at *
  simp [hline, hother]

theorem isOneLine_toString (n : Nat) : IsOneLine (toString n) :=
  fun h => absurd (isDigit_of_mem_toString h) (by decide)

/-! ### Lines of a report -/

def head (r : Report) : List String :=
  [title, "", totalLabel ++ toString r.total,
    completedLabel ++ toString r.progress.completed.length,
    pendingLabel ++ toString r.progress.pending.length, ""]

theorem lines_eq_head_append (r : Report) :
    r.lines = r.head ++ completedHeading :: (sectionLines r.progress.completed ++
      "" :: pendingHeading :: sectionLines r.progress.pending) := by
  simp [lines, head]

theorem forall_mem_head {P : String → Prop} (htitle : P title) (hblank : P "")
    (hcount : ∀ label ∈ [totalLabel, completedLabel, pendingLabel], ∀ n : Nat,
      P (label ++ toString n)) : ∀ line ∈ r.head, P line := by
  simp only [List.forall_mem_cons] at hcount
  obtain ⟨htotal, hcompleted, hpending, -⟩ := hcount
  simp only [head, List.forall_mem_cons]
  exact ⟨htitle, hblank, htotal _, hcompleted _, hpending _, hblank, List.forall_mem_nil _⟩

theorem isOneLine_of_mem_head : ∀ line ∈ r.head, IsOneLine line := by
  have hlabels : ∀ label ∈ [totalLabel, completedLabel, pendingLabel], IsOneLine label := by decide
  refine forall_mem_head (by decide) (by decide) fun label hlabel n => ?_
  exact isOneLine_append (hlabels label hlabel) (isOneLine_toString n)

theorem sectionLines_cons (name : String) (names : List String) :
    sectionLines (name :: names) = "" :: (name :: names).map (bullet ++ ·) := rfl

/-- A line below a heading is blank, the placeholder, or a name behind a bullet. -/
theorem mem_sectionLines_iff : line ∈ sectionLines names ↔
    line = "" ∨ (line = placeholder ∧ names = []) ∨ ∃ name ∈ names, bullet ++ name = line := by
  cases names with
  | nil => simp [sectionLines]
  | cons name names =>
      rw [sectionLines_cons, List.mem_cons, List.mem_map]
      simp

theorem isOneLine_of_mem_sectionLines (hnames : ∀ name ∈ names, IsOneLine name)
    (h : line ∈ sectionLines names) : IsOneLine line := by
  rcases mem_sectionLines_iff.1 h with rfl | ⟨rfl, -⟩ | ⟨name, hname, rfl⟩
  · decide
  · decide
  · exact isOneLine_append (by decide) (hnames name hname)

theorem IsOneLined.isOneLine_of_mem_lines (h : r.IsOneLined) :
    ∀ line ∈ r.lines, IsOneLine line := by
  obtain ⟨hcompleted, hpending⟩ := List.forall_mem_append.1 h
  rw [lines_eq_head_append]
  simp only [List.forall_mem_append, List.forall_mem_cons]
  exact ⟨isOneLine_of_mem_head, by decide,
    fun _ => isOneLine_of_mem_sectionLines hcompleted, by decide, by decide,
    fun _ => isOneLine_of_mem_sectionLines hpending⟩

theorem textLines_render (h : r.IsOneLined) : textLines r.render = r.lines := by
  have hlines := textLines_join_append h.isOneLine_of_mem_lines ""
  have hnone : textLines "" = [] := by decide
  rw [String.append_empty, hnone, List.append_nil] at hlines
  rw [render, hlines]

/-- What stands above the lists can be told whatever the names are. -/
theorem exists_textLines_render (r : Report) : ∃ more, textLines r.render = r.head ++ more := by
  rw [render, lines_eq_head_append, List.map_append, String.join_append,
    textLines_join_append isOneLine_of_mem_head]
  exact ⟨_, rfl⟩

/-! ### Counts -/

theorem printed?_eq_some (above : List String) {more : List String}
    (habove : ∀ line ∈ above, count? label line = none)
    (htext : textLines text = above ++ (label ++ toString n) :: more) :
    printed? label text = some n := by
  rw [printed?, htext, List.findSome?_append, List.findSome?_eq_none_iff.2 habove, Option.none_or,
    List.findSome?_cons, count?_append_toString]

theorem printed?_total (r : Report) : printed? totalLabel r.render = some r.total := by
  obtain ⟨more, hmore⟩ := r.exists_textLines_render
  exact printed?_eq_some [title, ""] (by decide) hmore

theorem printed?_completed (r : Report) :
    printed? completedLabel r.render = some r.progress.completed.length := by
  obtain ⟨more, hmore⟩ := r.exists_textLines_render
  refine printed?_eq_some [title, "", totalLabel ++ toString r.total] ?_ hmore
  simp only [List.forall_mem_cons]
  exact ⟨by decide, by decide, count?_append_of_apart (by decide) _, List.forall_mem_nil _⟩

theorem printed?_pending (r : Report) :
    printed? pendingLabel r.render = some r.progress.pending.length := by
  obtain ⟨more, hmore⟩ := r.exists_textLines_render
  refine printed?_eq_some [title, "", totalLabel ++ toString r.total,
    completedLabel ++ toString r.progress.completed.length] ?_ hmore
  simp only [List.forall_mem_cons]
  exact ⟨by decide, by decide, count?_append_of_apart (by decide) _,
    count?_append_of_apart (by decide) _, List.forall_mem_nil _⟩

/-! ### Sections -/

theorem isHeading_of_mem_head : ∀ line ∈ r.head, isHeading line = false := by
  have hlabels : ∀ label ∈ [totalLabel, completedLabel, pendingLabel], Apart "## " label := by
    decide
  refine forall_mem_head (by decide) (by decide) fun label hlabel n => ?_
  exact isHeading_append_of_apart (hlabels label hlabel) _

theorem isHeading_of_mem_sectionLines (h : line ∈ sectionLines names) : isHeading line = false := by
  rcases mem_sectionLines_iff.1 h with rfl | ⟨rfl, -⟩ | ⟨name, -, rfl⟩
  · decide
  · decide
  · exact isHeading_append_of_apart (by decide) _

theorem placeholder_mem_sectionLines_iff : placeholder ∈ sectionLines names ↔ names = [] := by
  rw [mem_sectionLines_iff]
  constructor
  · rintro (hblank | ⟨-, hnone⟩ | ⟨name, -, hname⟩)
    · exact absurd hblank (by decide)
    · exact hnone
    · have hbullet := isBullet_append name
      rw [hname] at hbullet
      exact absurd hbullet (by decide)
  · exact fun hnone => .inr (.inl ⟨rfl, hnone⟩)

theorem filter_isBullet_sectionLines (names : List String) :
    (sectionLines names).filter isBullet = names.map (bullet ++ ·) := by
  cases names with
  | nil => decide
  | cons name names =>
      have hblank : ¬isBullet "" = true := by decide
      rw [sectionLines_cons, List.filter_cons_of_neg hblank, List.filter_eq_self]
      intro line hline
      obtain ⟨other, -, rfl⟩ := List.mem_map.1 hline
      exact isBullet_append other

/-- What is below a heading goes on to the next heading or to the end. -/
theorem below_eq {above shown more : List String} (habove : heading ∉ above)
    (hshown : ∀ line ∈ shown, isHeading line = false)
    (hmore : ∀ line ∈ more.head?, isHeading line = true)
    (htext : textLines text = above ++ heading :: (shown ++ more)) :
    below heading text = shown := by
  have hskip : ∀ line ∈ above, (line != heading) = true := by
    intro line hline
    exact bne_iff_ne.2 fun heq => habove (heq ▸ hline)
  have hkeep : ∀ line ∈ shown, (!isHeading line) = true := by
    intro line hline
    rw [hshown line hline]
    rfl
  have hstop : more.takeWhile (fun line => !isHeading line) = [] := by
    cases more with
    | nil => rfl
    | cons line more => exact List.takeWhile_cons_of_neg (by simp [hmore line rfl])
  rw [below, htext, List.dropWhile_append_of_pos hskip, List.dropWhile_cons_of_neg (by simp),
    List.drop_one, List.tail_cons, List.takeWhile_append_of_pos hkeep, hstop, List.append_nil]

theorem shows_of_below {blanks : List String} (hblanks : ∀ line ∈ blanks, line = "")
    (hbelow : below heading text = sectionLines names ++ blanks)
    (hcount : printed? label text = some names.length) : Shows text heading label names := by
  have hplain : blanks.filter isBullet = [] := by
    rw [List.filter_eq_nil_iff]
    intro line hline
    rw [hblanks line hline]
    decide
  have hbulleted : (below heading text).filter isBullet = names.map (bullet ++ ·) := by
    rw [hbelow, List.filter_append, filter_isBullet_sectionLines, hplain, List.append_nil]
  refine ⟨?_, hbulleted, ?_⟩
  · rw [List.countP_eq_length_filter, hbulleted, List.length_map]
    exact hcount
  · rw [hbelow, List.mem_append, placeholder_mem_sectionLines_iff]
    refine ⟨fun h => h.elim id fun hblank => ?_, .inl⟩
    exact absurd (hblanks _ hblank) (by decide)

theorem shows_completed (h : r.IsOneLined) :
    Shows r.render completedHeading completedLabel r.progress.completed := by
  have htext := textLines_render h
  rw [lines_eq_head_append, List.append_cons (sectionLines _)] at htext
  have hhead : completedHeading ∉ r.head := fun hmem =>
    absurd (isHeading_of_mem_head _ hmem) (by decide)
  have hshown : ∀ line ∈ sectionLines r.progress.completed ++ [""], isHeading line = false := by
    rw [List.forall_mem_append]
    exact ⟨fun _ => isHeading_of_mem_sectionLines, by decide⟩
  have hnext : isHeading pendingHeading = true := by decide
  exact shows_of_below (by simp) (below_eq hhead hshown (by simp [hnext]) htext)
    r.printed?_completed

theorem shows_pending (h : r.IsOneLined) :
    Shows r.render pendingHeading pendingLabel r.progress.pending := by
  have htext : textLines r.render = (r.head ++ completedHeading ::
      (sectionLines r.progress.completed ++ [""])) ++ pendingHeading ::
        (sectionLines r.progress.pending ++ []) := by
    rw [textLines_render h, lines_eq_head_append]
    simp
  have habove : pendingHeading ∉ r.head ++ completedHeading ::
      (sectionLines r.progress.completed ++ [""]) := by
    have hheading : isHeading pendingHeading ≠ false := by decide
    simp only [List.mem_append, List.mem_cons, List.not_mem_nil, or_false, not_or]
    exact ⟨fun hmem => hheading (isHeading_of_mem_head _ hmem), by decide,
      fun hmem => hheading (isHeading_of_mem_sectionLines hmem), by decide⟩
  have hbelow := below_eq habove (fun _ => isHeading_of_mem_sectionLines) (by simp) htext
  exact shows_of_below (List.forall_mem_nil _) (by simpa using hbelow) r.printed?_pending

/-! ### Reading back -/

theorem mapM_after?_bullet (names : List String) :
    (names.map (bullet ++ ·)).mapM (after? bullet) = some names := by
  have hnames := mapM_eq_some_map id fun name (_ : name ∈ names) => after?_append bullet name
  rw [List.map_id] at hnames
  rw [List.mapM_map]
  exact hnames

theorem names?_sectionLines (names rest : List String) :
    names? names.length (sectionLines names ++ rest) = some (names, rest) := by
  cases names with
  | nil => rfl
  | cons name names =>
      have hlength : ((name :: names).map (bullet ++ ·)).length = names.length + 1 :=
        List.length_map _
      rw [sectionLines_cons, List.length_cons, List.cons_append, names?, if_pos,
        ← hlength, List.take_left, List.drop_left, mapM_after?_bullet]
      · rfl
      · rw [List.length_append, hlength]
        exact ⟨rfl, Nat.le_add_right _ _⟩

theorem lists?_sections (p : Progress) :
    lists? p.completed.length p.pending.length (completedHeading ::
      (sectionLines p.completed ++ "" :: pendingHeading :: sectionLines p.pending)) = some p := by
  have hpending := names?_sectionLines p.pending []
  rw [List.append_nil] at hpending
  simp [lists?, names?_sectionLines, hpending]

theorem read?_render (h : r.IsOneLined) : read? r.render = some r := by
  rw [read?, textLines_render h, lines_eq_head_append]
  simp only [head, List.cons_append, List.nil_append, and_self, if_true, count?_append_toString,
    Option.bind_eq_bind, Option.bind_some, lists?_sections]
  rfl

theorem tells_render (h : r.IsOneLined) : Tells r.render r where
  read := read?_render h
  alone other hother heq := by
    have hread := read?_render hother
    rw [heq, read?_render h] at hread
    exact (Option.some.inj hread).symm
  total := r.printed?_total
  completed := shows_completed h
  pending := shows_pending h

theorem countsFit_render {components : List Component} {progress : Progress}
    (h : Progress.ofComponents components = .ok progress) :
    CountsFit (ofComponents components progress).render := by
  refine ⟨_, _, _, printed?_total _, printed?_completed _, printed?_pending _, ?_⟩
  exact Progress.length_le_of_ofComponentsFrom h

/-- The text of a report tells all of it if no name has a line break. Whatever the names are, the
counts on components that were sorted fit. -/
theorem render_tells (r : Report) :
    (r.IsOneLined → Tells r.render r) ∧
      ∀ components, Progress.ofComponents components = .ok r.progress →
        r = ofComponents components r.progress → CountsFit r.render := by
  refine ⟨tells_render, fun components hsorted hr => ?_⟩
  rw [hr]
  exact countsFit_render hsorted

private def bare (status name : String) : Component where
  members := [("nome", .text name), ("situacao", .text status)]
  distinct := by simp [Json.keys]

/-- Components whose names look like lines of a report. -/
private def imitations : List Component :=
  [bare "CONCLUIDO" "", bare "PENDENTE" "## Pendentes", bare "MATRICULADO" "- x",
    bare "CONCLUIDO" "_nenhum componente_", bare "CONCLUIDO" ""]

theorem render_tells_of_imitations :
    let progress : Progress := ⟨["## Pendentes"], ["", "_nenhum componente_", ""]⟩
    let report := ofComponents imitations progress
    report.IsOneLined ∧ Progress.ofComponents imitations = .ok progress ∧
      Tells report.render report ∧ CountsFit report.render := by
  intro progress report
  have hlines : report.IsOneLined := by decide
  have hsorted : Progress.ofComponents imitations = .ok progress := by rfl
  obtain ⟨htells, hfit⟩ := render_tells report
  exact ⟨hlines, hsorted, htells hlines, hfit imitations hsorted rfl⟩

end Report

end DegreeAudit
