import DegreeAudit.Curriculum.Answer
import DegreeAudit.Export.Format
import DegreeAudit.Proofs.Json.Printer

/-!
# Reading back exported records

The records that are exported, put back under the key of the list, are an answer that is read as the
same components: `ofBody_render_records`. One half is that a printed curriculum is read back if its
components are within bounds, that is, if no key stands twice inside them and there was room for
them. The other half is that every component that was ever read is within bounds, whichever form the
answer had; both forms open as many brackets around a component.
-/

namespace DegreeAudit

open Json
open Except (bind_eq_ok_iff map_eq_ok_iff)

/-- No key stands twice inside the component's values, and they are no deeper than an answer may be.
-/
def Component.WithinBounds (c : Component) : Prop :=
  ∀ member ∈ c.members, member.2.WellKeyed ∧ member.2.depth ≤ Curriculum.valueDepth

namespace Curriculum

variable {s rest : List Char} {components : List Component}

/-! ### What an answer can hold -/

theorem componentReader_brings : componentReader.Brings Component.WithinBounds := by
  intro s c rest (h : runComponent s = .ok (c, rest))
  unfold runComponent at h
  split at h
  · cases h
  · split at h
    · split at h
      · cases h
      · next hmembers =>
          cases h
          exact Reader.Brings.members (Reader.value_brings valueDepth) hmembers
    · cases h

theorem withinBounds_of_readList (h : readList s = .ok (components, rest)) :
    ∀ c ∈ components, c.WithinBounds := by
  unfold readList at h
  split at h
  · cases h
  · split at h
    · exact componentReader_brings.items h
    · cases h

theorem withinBounds_of_readArrayForm {curriculum : Curriculum}
    (h : readArrayForm s = .ok (curriculum, rest)) :
    ∀ c ∈ curriculum.components, c.WithinBounds := by
  unfold readArrayForm at h
  split at h
  · cases h
  · cases h
  · obtain ⟨⟨components, after⟩, hlist, h⟩ := bind_eq_ok_iff.1 h
    dsimp only at h
    split at h
    · cases h
    · cases h
      exact withinBounds_of_readList hlist
    · cases h

/-- A member of the object form leaves the list that was found, or is the list. -/
theorem withinBounds_of_readMember {found result : Option (List Component)}
    (hfound : ∀ components ∈ found, ∀ c ∈ components, c.WithinBounds)
    (h : readMember found s = .ok (result, rest)) :
    ∀ components ∈ result, ∀ c ∈ components, c.WithinBounds := by
  obtain ⟨⟨key, s₁⟩, -, h⟩ := bind_eq_ok_iff.1 h
  dsimp only at h
  split at h
  · split at h
    · cases h
    · obtain ⟨s₂, -, h⟩ := bind_eq_ok_iff.1 h
      obtain ⟨⟨components, s₃⟩, hlist, heq⟩ := map_eq_ok_iff.1 h
      cases heq
      intro components' hmem
      cases hmem
      exact withinBounds_of_readList hlist
  · obtain ⟨s₂, -, h⟩ := bind_eq_ok_iff.1 h
    obtain ⟨s₃, -, heq⟩ := map_eq_ok_iff.1 h
    cases heq
    exact hfound

theorem withinBounds_of_ofFound {found : Option (List Component)} {curriculum : Curriculum}
    (hfound : ∀ components ∈ found, ∀ c ∈ components, c.WithinBounds)
    (h : ofFound found = .ok curriculum) : ∀ c ∈ curriculum.components, c.WithinBounds := by
  cases found with
  | none => cases h
  | some components =>
      cases h
      exact hfound components rfl

theorem withinBounds_of_readNextMembers {found : Option (List Component)}
    {curriculum : Curriculum} (hfound : ∀ components ∈ found, ∀ c ∈ components, c.WithinBounds)
    (h : readNextMembers found s = .ok (curriculum, rest)) :
    ∀ c ∈ curriculum.components, c.WithinBounds := by
  fun_induction readNextMembers found s with
  | case1 => cases h
  | case2 =>
      obtain ⟨_, hclosed, heq⟩ := map_eq_ok_iff.1 h
      cases heq
      exact withinBounds_of_ofFound hfound hclosed
  | case3 => cases h
  | case4 _ _ _ _ _ hmember _ _ _ _ ih => exact ih (withinBounds_of_readMember hfound hmember) h
  | case5 => cases h

theorem withinBounds_of_readObjectForm {curriculum : Curriculum}
    (h : readObjectForm s = .ok (curriculum, rest)) :
    ∀ c ∈ curriculum.components, c.WithinBounds := by
  have hnone : ∀ components ∈ (none : Option (List Component)), ∀ c ∈ components,
      c.WithinBounds := by
    intro components hmem
    cases hmem
  unfold readObjectForm at h
  split at h
  · cases h
  · split at h
    · obtain ⟨_, hclosed, -⟩ := map_eq_ok_iff.1 h
      cases hclosed
    · obtain ⟨⟨found, after⟩, hmember, h⟩ := bind_eq_ok_iff.1 h
      exact withinBounds_of_readNextMembers (withinBounds_of_readMember hnone hmember) h

/-- Whatever was read is within bounds. -/
theorem withinBounds_of_read {curriculum : Curriculum} (h : read s = .ok curriculum) :
    ∀ c ∈ curriculum.components, c.WithinBounds := by
  obtain ⟨⟨curriculum, after⟩, hform, h⟩ := bind_eq_ok_iff.1 h
  dsimp only at h
  split at h
  · cases h
    split at hform
    · cases hform
    · exact withinBounds_of_readArrayForm hform
    · exact withinBounds_of_readObjectForm hform
    · cases hform
  · cases h

/-! ### Reading back what was printed -/

theorem runComponent_brace {c : Component}
    (h : (Reader.value valueDepth).members s = .ok (c.members, rest)) :
    runComponent ('\x7b' :: s) = .ok (c, rest) := by
  unfold runComponent
  split
  · next heq => cases heq
  · next heq =>
      cases heq
      rw [if_pos rfl]
      split
      · next hmembers =>
          rw [h] at hmembers
          cases hmembers
      · next hmembers =>
          rw [h] at hmembers
          cases hmembers
          rfl

/-- A component within bounds is read back from its compact text. -/
theorem componentReader_reads {c : Component} (hbounds : c.WithinBounds)
    (hdoubles : ∀ x, c.toValue.Holds x → ReadsBack x) :
    componentReader.Reads c.toValue.chars c := by
  refine ⟨⟨_, _, rfl, by decide⟩, fun {rest} _ => ?_⟩
  have hreads : ∀ member ∈ c.members, (Reader.value valueDepth).Reads member.2.chars member.2 := by
    intro member hmember
    obtain ⟨hkeys, hdepth⟩ := hbounds member hmember
    exact Reader.reads_chars valueDepth hkeys hdepth fun x hx => hdoubles x (.object hmember hx)
  exact runComponent_brace (Reader.members_membersChars hreads c.distinct rest)

theorem readList_chars (hreads : ∀ c ∈ components, componentReader.Reads c.toValue.chars c)
    (rest : List Char) :
    readList ((Value.array (components.map Component.toValue)).chars ++ rest)
      = .ok (components, rest) :=
  Reader.items_itemsChars hreads rest

theorem readMember_listKey (s : List Char) :
    readMember none (textChars listKey ++ ':' :: s)
      = (readList s).map fun (components, s) => (some components, s) := by
  rw [readMember, Reader.readName_textChars]
  dsimp only [Except.bind]
  rw [if_pos rfl, if_neg (by decide), Reader.readColon_cons]

theorem readMember_chars (hreads : ∀ c ∈ components, componentReader.Reads c.toValue.chars c)
    (rest : List Char) :
    readMember none (textChars listKey ++
        ':' :: ((Value.array (components.map Component.toValue)).chars ++ rest))
      = .ok (some components, rest) := by
  rw [readMember_listKey, readList_chars hreads]
  rfl

theorem readNextMembers_closing (found : Option (List Component)) (rest : List Char) :
    readNextMembers found ('\x7d' :: rest)
      = (ofFound found).map fun curriculum => (curriculum, rest) := by
  rw [readNextMembers]
  split
  · next heq => cases heq
  · next heq =>
      cases heq
      exact if_pos rfl

theorem readObjectForm_chars (hreads : ∀ c ∈ components, componentReader.Reads c.toValue.chars c)
    (rest : List Char) :
    readObjectForm (textChars listKey ++
        ':' :: ((Value.array (components.map Component.toValue)).chars ++ '\x7d' :: rest))
      = .ok (⟨components⟩, rest) := by
  have hmember := readMember_chars hreads ('\x7d' :: rest)
  obtain ⟨more, hchars, -⟩ := exists_textChars_append listKey
    (':' :: ((Value.array (components.map Component.toValue)).chars ++ '\x7d' :: rest))
  rw [hchars] at hmember ⊢
  rw [readObjectForm, skipSpaces_cons (by decide)]
  dsimp only
  rw [if_neg (by decide), hmember]
  exact readNextMembers_closing (some components) rest

/-- A curriculum whose components are read back is read back. -/
theorem read_chars {curriculum : Curriculum}
    (hreads : ∀ c ∈ curriculum.components, componentReader.Reads c.toValue.chars c) :
    read curriculum.toValue.chars = .ok curriculum := by
  show (readObjectForm (textChars listKey ++ ':' :: (_ ++ ['\x7d']))).bind _ = _
  rw [readObjectForm_chars hreads []]
  rfl

/-- Exported records under the key of the list are the compact text of the curriculum. -/
theorem toList_render_records (components : List Component) :
    ("\x7b\"disciplinas\":" ++ ExportFormat.records.render components ++ "\x7d").toList
      = (⟨components⟩ : Curriculum).toValue.chars := by
  have hopening : "\x7b\"disciplinas\":".toList = '\x7b' :: (textChars listKey ++ [':']) := by
    decide
  have hclosing : "\x7d".toList = ['\x7d'] := rfl
  show _ = '\x7b' :: (textChars listKey ++
    ':' :: ((Value.array (components.map Component.toValue)).chars ++ ['\x7d']))
  rw [String.toList_append, String.toList_append, hopening, hclosing, ExportFormat.render,
    Value.compact, String.toList_ofList, List.cons_append, List.cons_append, List.append_assoc,
    List.append_assoc, List.singleton_append]

end Curriculum

open Curriculum in
/-- Exported records are read back as the components that were exported, if these were read from an
answer of either form and each double in them is read back from its digits. -/
theorem ofBody_render_records {body : String} {curriculum : Curriculum}
    (hread : ofBody body = .ok curriculum)
    (hdoubles : ∀ c ∈ curriculum.components, ∀ x, c.toValue.Holds x → ReadsBack x) :
    ofBody ("\x7b\"disciplinas\":" ++ ExportFormat.records.render curriculum.components ++ "\x7d")
      = .ok curriculum := by
  have hbounds := withinBounds_of_read hread
  rw [ofBody, toList_render_records]
  exact read_chars fun c hc => componentReader_reads (hbounds c hc) (hdoubles c hc)

private def graded : Component where
  members :=
    [("nome", .text "Cálculo\n"), ("media", .number (.double ⟨false, 0x13000000000000, -49⟩))]
  distinct := by decide

private theorem readsBack_of_holds_graded {x : Decimal.Binary64} (h : graded.toValue.Holds x) :
    ReadsBack x := by
  cases h with
  | object hmember h =>
      rcases List.mem_cons.1 hmember with rfl | hmember
      · cases h
      · cases List.mem_singleton.1 hmember
        cases h
        exact readsBack_of_toOption (by decide +kernel)

open Curriculum in
theorem ofBody_render_records_of_graded :
    let body := "\x7b\"disciplinas\":[\x7b\"nome\":\"Cálculo\\n\",\"media\":9.5\x7d]\x7d"
    ofBody body = .ok ⟨[graded]⟩ ∧ (∀ c ∈ [graded], ∀ x, c.toValue.Holds x → ReadsBack x) ∧
      ofBody ("\x7b\"disciplinas\":" ++ ExportFormat.records.render [graded] ++ "\x7d")
        = .ok ⟨[graded]⟩ := by
  intro body
  have hdoubles : ∀ c ∈ [graded], ∀ x, c.toValue.Holds x → ReadsBack x := by
    intro c hc x hx
    cases List.mem_singleton.1 hc
    exact readsBack_of_holds_graded hx
  have hbounds : graded.WithinBounds := by
    intro member hmember
    rcases List.mem_cons.1 hmember with rfl | hmember
    · exact ⟨.text _, Nat.zero_le _⟩
    · cases List.mem_singleton.1 hmember
      exact ⟨.number _, Nat.zero_le _⟩
  have hbody : ofBody body = .ok ⟨[graded]⟩ := by
    have hchars : body.toList = (⟨[graded]⟩ : Curriculum).toValue.chars := by decide +kernel
    rw [ofBody, hchars]
    apply read_chars
    intro c hc
    cases List.mem_singleton.1 hc
    exact componentReader_reads hbounds fun x hx => readsBack_of_holds_graded hx
  exact ⟨hbody, hdoubles, ofBody_render_records hbody hdoubles⟩

end DegreeAudit
