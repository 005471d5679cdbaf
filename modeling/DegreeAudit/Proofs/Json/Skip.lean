import DegreeAudit.Json.Skip

/-!
# What can be read can be passed over

Passing over a value asks less of it than reading it does, and where the value can be read both
leave the same text behind: `skipValue_of_value`. Reading goes down one level of nesting at a time,
while passing over keeps the open arrays and objects in a list; so a value is looked at inside any
containers, and one that a reader takes off the front of a text brings the skipping from before it
to after it (`Reader.Skips`). Of a list of items or members this follows item by item.
-/

namespace DegreeAudit.Json

open Except (bind_eq_ok_iff map_eq_ok_iff)

variable {s rest after : List Char} {containers : List Container} {container : Container}

/-! ### Strings and keys -/

theorem skipTextRest_quote (rest : List Char) : skipTextRest ('"' :: rest) = .ok rest := by
  rw [skipTextRest]
  exact if_pos rfl

theorem skipTextRest_escape (h : skipEscape s = .ok after) :
    skipTextRest ('\\' :: s) = skipTextRest after := by
  rw [skipTextRest, if_neg (by decide), if_pos rfl]
  split
  · next heq =>
      rw [h] at heq
      cases heq
  · next heq =>
      rw [h] at heq
      cases heq
      rfl

theorem skipEscape_code {n : Nat} (h : readHex s = .ok (n, after)) :
    skipEscape ('u' :: s) = .ok after := by
  rw [skipEscape, h]
  rfl

/-- An escape by number may be the first of two that belong together; both are passed over. -/
theorem skipTextRest_of_readCode {c : Char} (h : readCode s = .ok (c, after)) :
    skipTextRest ('\\' :: 'u' :: s) = skipTextRest after := by
  obtain ⟨⟨n, s₁⟩, hhex, h⟩ := bind_eq_ok_iff.1 h
  have hfirst := skipTextRest_escape (skipEscape_code hhex)
  dsimp only at h
  split at h
  · cases h
  · split at h
    · split at h
      · cases h
      · cases h
      · obtain ⟨⟨m, s₂⟩, hhex', h⟩ := bind_eq_ok_iff.1 h
        dsimp only at h
        split at h
        · obtain ⟨-, rfl⟩ := Prod.mk.inj (Except.ok.inj h)
          rw [hfirst]
          exact skipTextRest_escape (skipEscape_code hhex')
        · cases h
      · cases h
    · obtain ⟨-, rfl⟩ := Prod.mk.inj (Except.ok.inj h)
      exact hfirst

theorem skipTextRest_of_readEscape {c : Char} (h : readEscape s = .ok (c, after)) :
    skipTextRest ('\\' :: s) = skipTextRest after := by
  unfold readEscape at h
  split at h
  · cases h
  · exact skipTextRest_of_readCode h
  · next hcode =>
      split at h
      · next hsimple =>
          cases h
          refine skipTextRest_escape ?_
          unfold skipEscape
          split
          · next heq => cases heq
          · next heq => exact absurd (List.cons.inj heq).1 hcode
          · next heq =>
              cases heq
              rw [hsimple]
              rfl
      · cases h

/-- A string that can be read is passed over. -/
theorem skipTextRest_of_readTextRest {collected : List Char} {text : String}
    (h : readTextRest collected s = .ok (text, rest)) : skipTextRest s = .ok rest := by
  fun_induction readTextRest collected s with
  | case1 => cases h
  | case2 =>
      cases h
      exact skipTextRest_quote _
  | case3 => cases h
  | case4 _ _ _ _ hescape _ _ ih =>
      rw [skipTextRest_of_readEscape hescape]
      exact ih h
  | case5 => cases h
  | case6 _ _ _ hquote hslash hcontrol ih =>
      rw [skipTextRest, if_neg hquote, if_neg hslash, if_neg hcontrol]
      exact ih h

theorem skipKey_of_readKey {key : String} (h : readKey s = .ok (key, rest)) :
    skipKey s = .ok rest := by
  obtain ⟨⟨key', s₁⟩, hname, h⟩ := bind_eq_ok_iff.1 h
  obtain ⟨s₂, hcolon, heq⟩ := map_eq_ok_iff.1 h
  cases heq
  unfold readName at hname
  split at hname
  · cases hname
  · next hquote =>
      rw [skipKey, hquote]
      show (skipTextRest _).bind readColon = _
      rw [skipTextRest_of_readTextRest hname]
      exact hcolon
  · cases hname

/-! ### One step inside open containers -/

theorem skipFrom_bracket (h : skipSpaces s = '[' :: rest) :
    skipFrom .beforeValue containers s = skipFrom .afterOpening (.array :: containers) rest := by
  rw [skipFrom]
  split <;> grind

theorem skipFrom_brace (h : skipSpaces s = '\x7b' :: rest) :
    skipFrom .beforeValue containers s = skipFrom .afterOpening (.object :: containers) rest := by
  rw [skipFrom]
  split <;> grind

theorem skipFrom_scalar {c : Char} (h : skipSpaces s = c :: rest) (hbracket : c ≠ '[')
    (hbrace : c ≠ '\x7b') (hscalar : skipScalar (c :: rest) = .ok after) :
    skipFrom .beforeValue containers s = skipFrom .afterValue containers after := by
  rw [skipFrom]
  split <;> grind

theorem skipFrom_afterOpening_closing (h : skipSpaces s = container.closing :: rest) :
    skipFrom .afterOpening (container :: containers) s = skipFrom .afterValue containers rest := by
  rw [skipFrom]
  split <;> grind

theorem skipFrom_afterOpening_label {c : Char} (h : skipSpaces s = c :: rest)
    (hc : c ≠ container.closing) (hlabel : container.skipLabel (c :: rest) = .ok after) :
    skipFrom .afterOpening (container :: containers) s
      = skipFrom .beforeValue (container :: containers) after := by
  conv => lhs; rw [skipFrom]
  split <;> grind

theorem skipFrom_afterValue_closing (h : skipSpaces s = container.closing :: rest) :
    skipFrom .afterValue (container :: containers) s = skipFrom .afterValue containers rest := by
  rw [skipFrom]
  split <;> grind

theorem Container.closing_ne_comma (container : Container) : ',' ≠ container.closing := by
  cases container <;> decide

theorem skipFrom_afterValue_comma (h : skipSpaces s = ',' :: rest)
    (hlabel : container.skipLabel rest = .ok after) :
    skipFrom .afterValue (container :: containers) s
      = skipFrom .beforeValue (container :: containers) after := by
  have hcomma := container.closing_ne_comma
  conv => lhs; rw [skipFrom]
  split <;> grind

/-! ### Items and members -/

namespace Reader

variable {α : Type} {reader : Reader α}

/-- Whatever the reader takes off the front of a text is passed over inside any containers. -/
def Skips (reader : Reader α) : Prop :=
  ∀ {s a rest}, reader.run s = .ok (a, rest) → ∀ containers,
    skipFrom .beforeValue containers s = skipFrom .afterValue containers rest

theorem Skips.nextItems (h : reader.Skips) {read items : List α}
    (hrun : reader.nextItems read s = .ok (items, rest)) (containers : List Container) :
    skipFrom .afterValue (.array :: containers) s = skipFrom .afterValue containers rest := by
  -- over the items that are read, each of which begins and ends inside the same open array
  fun_induction Reader.nextItems reader read s with
  | case1 => cases hrun
  | case2 _ _ _ hs =>
      cases hrun
      exact skipFrom_afterValue_closing hs
  | case3 => cases hrun
  | case4 _ _ _ _ _ hitem _ hs _ _ ih =>
      rw [skipFrom_afterValue_comma hs rfl, h hitem]
      exact ih hrun
  | case5 => cases hrun

theorem Skips.items (h : reader.Skips) {items : List α}
    (hrun : reader.items s = .ok (items, rest)) (containers : List Container) :
    skipFrom .afterOpening (.array :: containers) s = skipFrom .afterValue containers rest := by
  unfold Reader.items at hrun
  split at hrun
  · cases hrun
  · next c tail hs =>
      split at hrun
      · next hclosing =>
          cases hrun
          rw [hclosing] at hs
          exact skipFrom_afterOpening_closing hs
      · next hclosing =>
          have hitems : c ≠ Container.array.closing := hclosing
          obtain ⟨⟨a, after⟩, hitem, hrun⟩ := bind_eq_ok_iff.1 hrun
          rw [skipFrom_afterOpening_label hs hitems rfl, h hitem]
          exact h.nextItems hrun containers

/-- The key of a member is the label, and its value is passed over behind it. -/
theorem Skips.member (h : reader.Skips) {member : String × α}
    (hrun : reader.member s = .ok (member, rest)) :
    ∃ after, Container.object.skipLabel s = .ok after ∧ ∀ containers,
      skipFrom .beforeValue containers after = skipFrom .afterValue containers rest := by
  obtain ⟨⟨key, after⟩, hkey, hrun⟩ := bind_eq_ok_iff.1 hrun
  obtain ⟨⟨a, left⟩, hvalue, heq⟩ := map_eq_ok_iff.1 hrun
  cases heq
  exact ⟨after, skipKey_of_readKey hkey, h hvalue⟩

theorem Skips.nextMembers (h : reader.Skips) {read members : List (String × α)}
    (hrun : reader.nextMembers read s = .ok (members, rest)) (containers : List Container) :
    skipFrom .afterValue (.object :: containers) s = skipFrom .afterValue containers rest := by
  fun_induction Reader.nextMembers reader read s with
  | case1 => cases hrun
  | case2 _ _ _ hs =>
      cases hrun
      exact skipFrom_afterValue_closing hs
  | case3 => cases hrun
  | case4 _ _ _ _ _ hmember _ hs _ _ ih =>
      obtain ⟨after, hlabel, hvalue⟩ := h.member hmember
      rw [skipFrom_afterValue_comma hs hlabel, hvalue]
      exact ih hrun
  | case5 => cases hrun

theorem Skips.members (h : reader.Skips) {members : List (String × α)}
    (hrun : reader.members s = .ok (members, rest)) (containers : List Container) :
    skipFrom .afterOpening (.object :: containers) s = skipFrom .afterValue containers rest := by
  unfold Reader.members at hrun
  split at hrun
  · cases hrun
  · next c tail hs =>
      split at hrun
      · next hclosing =>
          cases hrun
          rw [hclosing] at hs
          exact skipFrom_afterOpening_closing hs
      · next hclosing =>
          have hmembers : c ≠ Container.object.closing := hclosing
          obtain ⟨⟨m, left⟩, hmember, hrun⟩ := bind_eq_ok_iff.1 hrun
          obtain ⟨after, hlabel, hvalue⟩ := h.member hmember
          rw [skipFrom_afterOpening_label hs hmembers hlabel, hvalue]
          exact h.nextMembers hrun containers

/-! ### Values -/

theorem skipNumeral_of_readNumber {n : Number} (h : readNumber s = .ok (n, rest)) :
    skipNumeral s = .ok rest := by
  obtain ⟨⟨numeral, after⟩, hscan, h⟩ := bind_eq_ok_iff.1 h
  dsimp only at h
  split at h
  · cases h
    rw [skipNumeral, hscan]
  · cases h

/-- What is read inside a value is passed over, if the reader of its items and members is one whose
values are. -/
theorem skipFrom_of_runValue {inner : Option (Reader Value)} {v : Value}
    (h : ∀ reader ∈ inner, reader.Skips) (hrun : runValue inner s = .ok (v, rest))
    (containers : List Container) :
    skipFrom .beforeValue containers s = skipFrom .afterValue containers rest := by
  unfold runValue at hrun
  split at hrun
  · cases hrun
  -- null, true and false
  iterate 3
    · next hs =>
        obtain ⟨after, hread, heq⟩ := map_eq_ok_iff.1 hrun
        cases heq
        exact skipFrom_scalar hs (by decide) (by decide) hread
  · next hs =>
      obtain ⟨⟨text, after⟩, hread, heq⟩ := map_eq_ok_iff.1 hrun
      cases heq
      exact skipFrom_scalar hs (by decide) (by decide) (skipTextRest_of_readTextRest hread)
  · next hs =>
      split at hrun
      · cases hrun
      · next reader =>
          obtain ⟨⟨items, after⟩, hitems, heq⟩ := map_eq_ok_iff.1 hrun
          cases heq
          rw [skipFrom_bracket hs]
          exact Skips.items (h reader rfl) hitems containers
  · next hs =>
      split at hrun
      · cases hrun
      · next reader =>
          obtain ⟨⟨members, after⟩, hmembers, heq⟩ := map_eq_ok_iff.1 hrun
          cases heq
          rw [skipFrom_brace hs]
          exact Skips.members (h reader rfl) hmembers containers
  · next c tail _ _ _ _ hbracket hbrace hs =>
      split at hrun
      · next hnumber =>
          obtain ⟨⟨n, after⟩, hread, heq⟩ := map_eq_ok_iff.1 hrun
          cases heq
          have hscalar : skipScalar (c :: tail) = skipNumeral (c :: tail) := by
            simp only [skipScalar, if_pos hnumber]
          rw [skipFrom_scalar hs hbracket hbrace (hscalar.trans (skipNumeral_of_readNumber hread))]
      · cases hrun

theorem value_skips (room : Nat) : (value room).Skips := by
  induction room with
  | zero =>
      intro s v rest (hrun : runValue none s = .ok (v, rest))
      refine skipFrom_of_runValue (fun reader h => ?_) hrun
      cases h
  | succ room ih =>
      intro s v rest (hrun : runValue (some (value room)) s = .ok (v, rest))
      refine skipFrom_of_runValue (fun reader h => ?_) hrun
      cases h
      exact ih

end Reader

/-- Where a value can be read, passing over it leaves the same text. -/
theorem skipValue_of_value {room : Nat} {v : Value}
    (h : (Reader.value room).run s = .ok (v, rest)) : skipValue s = .ok rest := by
  rw [skipValue, Reader.value_skips room h, skipFrom]

end DegreeAudit.Json
