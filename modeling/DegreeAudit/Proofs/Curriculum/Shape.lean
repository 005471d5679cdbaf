import DegreeAudit.Proofs.Curriculum.Answer
import DegreeAudit.Proofs.Json.Members
import DegreeAudit.Proofs.Json.Skip

/-!
# The shapes of an answer

The compact text of a value is an answer exactly if the value lists nothing but objects, under the
key of the list or as the only item of an array, and the components are then these objects:
`ofBody_compact`. The list is not read as values are and the other members are not read at all, so
two comparisons carry the proof. What is read as a list of components stands there as a value too
(`value_of_readList`), and a value that could be read is passed over. The members are then taken one
by one, with the list found already or still to come.
-/

namespace DegreeAudit

open Json
open Except (bind_eq_ok_iff map_eq_ok_iff)

namespace Curriculum

variable {s rest after : List Char} {components : List Component} {curriculum : Curriculum}
  {v : Value} {members : List (String × Value)}

/-! ### The list of components -/

theorem componentReader_refines :
    componentReader.Refines Component.toValue (Reader.value (valueDepth + 1)) := by
  intro s c rest (h : runComponent s = .ok (c, rest))
  show Reader.runValue (some (Reader.value valueDepth)) s = _
  unfold runComponent at h
  split at h
  · cases h
  · next hs =>
      split at h
      · next hbrace =>
          split at h
          · cases h
          · next hmembers =>
              cases h
              subst hbrace
              rw [Reader.runValue, hs]
              show ((Reader.value valueDepth).members _).map _ = _
              simp only [hmembers]
              rfl
      · cases h

/-- What is read as a list of components is the array of these objects. -/
theorem value_of_readList (h : readList s = .ok (components, rest)) :
    (Reader.value (valueDepth + 2)).run s
      = .ok (.array (components.map Component.toValue), rest) := by
  show Reader.runValue (some (Reader.value (valueDepth + 1))) s = _
  unfold readList at h
  split at h
  · cases h
  · next hs =>
      split at h
      · next hbracket =>
          subst hbracket
          rw [Reader.runValue, hs]
          show ((Reader.value (valueDepth + 1)).items _).map _ = _
          rw [componentReader_refines.items h]
          rfl
      · cases h

theorem componentReader_reads_of_readable {c : Component}
    (h : Readable (valueDepth + 1) c.toValue) : componentReader.Reads c.toValue.chars c := by
  refine componentReader_reads (fun member hmember => ?_) h.readsBack
  exact ⟨(h.member member hmember).wellKeyed, (h.member member hmember).depth_le⟩

/-- The text of a value is a list of components exactly if the value is the array of them. -/
theorem readList_chars_iff (h : Readable (valueDepth + 2) v) (hrest : EndsNumeral rest) :
    readList (v.chars ++ rest) = .ok (components, after) ↔
      v = .array (components.map Component.toValue) ∧ after = rest := by
  constructor
  · intro hlist
    have hvalue := value_of_readList hlist
    rw [h.reads.run hrest] at hvalue
    cases hvalue
    exact ⟨rfl, rfl⟩
  · rintro ⟨rfl, rfl⟩
    refine readList_chars (fun c hc => componentReader_reads_of_readable ?_) after
    exact h.item _ (List.mem_map_of_mem hc)

/-! ### Members -/

theorem readMember_of_ne {key : String} (hkey : key ≠ listKey) (h : Readable (valueDepth + 2) v)
    (hrest : EndsNumeral rest) (found : Option (List Component)) :
    readMember found (textChars key ++ ':' :: (v.chars ++ rest)) = .ok (found, rest) := by
  rw [readMember, Reader.readName_textChars]
  dsimp only [Except.bind]
  rw [if_neg hkey, Reader.readColon_cons]
  dsimp only
  rw [skipValue_of_value (h.reads.run hrest)]
  rfl

theorem readNextMembers_comma (found : Option (List Component)) (s : List Char) :
    readNextMembers found (',' :: s)
      = (readMember found s).bind fun (found, after) => readNextMembers found after := by
  rw [readNextMembers]
  split
  · next heq => cases heq
  · next heq =>
      cases heq
      rw [if_neg (by decide), if_pos rfl]
      split
      · next hmember =>
          simp only [hmember]
          rfl
      · next hmember =>
          simp only [hmember]
          rfl

/-- The first member is treated like the next ones. -/
theorem readObjectForm_membersChars (members : List (String × Value)) (rest : List Char) :
    readObjectForm (Value.membersChars members ++ rest)
      = readNextMembers none (Value.nextMembersChars members ++ rest) := by
  cases members with
  | nil => exact (readNextMembers_closing none rest).symm
  | cons member members =>
      obtain ⟨key, v⟩ := member
      rw [Value.membersChars, Value.nextMembersChars, List.cons_append, readNextMembers_comma,
        List.append_assoc]
      obtain ⟨more, hchars, -⟩ := exists_textChars_append key
        ((':' :: (v.chars ++ Value.nextMembersChars members)) ++ rest)
      rw [hchars, readObjectForm, skipSpaces_cons (by decide)]
      exact if_neg (by decide)

/-- Once the list was found, members with other keys change nothing. -/
theorem readNextMembers_some (h : ∀ member ∈ members, Readable (valueDepth + 2) member.2)
    (hkeys : listKey ∉ keys members) (components : List Component) (rest : List Char) :
    readNextMembers (some components) (Value.nextMembersChars members ++ rest)
      = .ok (⟨components⟩, rest) := by
  induction members with
  | nil => exact readNextMembers_closing (some components) rest
  | cons member members ih =>
      obtain ⟨key, v⟩ := member
      obtain ⟨hkey, hkeys⟩ := not_or.1 (mt List.mem_cons.2 hkeys)
      rw [List.forall_mem_cons] at h
      have hmember := readMember_of_ne (Ne.symm hkey) h.1
        (endsNumeral_nextMembersChars members rest) (some components)
      rw [Value.nextMembersChars, List.cons_append, readNextMembers_comma, List.append_assoc,
        List.cons_append, List.append_assoc, hmember]
      exact ih h.2 hkeys

/-- Where the list was not found before, it is a member with its key that brings it. -/
theorem readNextMembers_none_iff (h : ∀ member ∈ members, Readable (valueDepth + 2) member.2)
    (hdistinct : (keys members).Nodup) :
    readNextMembers none (Value.nextMembersChars members ++ rest) = .ok (curriculum, after) ↔
      (listKey, .array (curriculum.components.map Component.toValue)) ∈ members ∧ after = rest := by
  induction members with
  | nil =>
      rw [Value.nextMembersChars, List.singleton_append, readNextMembers_closing]
      constructor
      · intro hnone
        cases hnone
      · intro hlist
        cases hlist.1
  | cons member members ih =>
      obtain ⟨key, v⟩ := member
      obtain ⟨hfresh, hdistinct⟩ := List.nodup_cons.1 hdistinct
      rw [List.forall_mem_cons] at h
      have hrest := endsNumeral_nextMembersChars members rest
      rw [Value.nextMembersChars, List.cons_append, readNextMembers_comma, List.append_assoc,
        List.cons_append, List.append_assoc, List.mem_cons]
      by_cases hkey : key = listKey
      -- the list has to be this one, since its key does not come again
      · subst hkey
        rw [readMember_listKey]
        constructor
        · intro hread
          obtain ⟨_, hmember, hnext⟩ := bind_eq_ok_iff.1 hread
          obtain ⟨_, hlist, heq⟩ := map_eq_ok_iff.1 hmember
          cases heq
          obtain ⟨rfl, hafter⟩ := (readList_chars_iff h.1 hrest).1 hlist
          dsimp only at hnext
          rw [hafter, readNextMembers_some h.2 hfresh] at hnext
          cases hnext
          exact ⟨.inl rfl, rfl⟩
        · intro hlist
          obtain ⟨hmem, hafter⟩ := hlist
          have hv : v = .array (curriculum.components.map Component.toValue) := by
            rcases hmem with heq | hmem
            · exact (Prod.mk.inj heq).2.symm
            · exact absurd (List.mem_map_of_mem hmem) hfresh
          rw [(readList_chars_iff h.1 hrest).2 ⟨hv, rfl⟩, hafter]
          exact readNextMembers_some h.2 hfresh curriculum.components rest
      · have hother : ∀ value, (listKey, value) ≠ (key, v) := by
          intro value heq
          exact hkey (Prod.mk.inj heq).1.symm
        rw [readMember_of_ne hkey h.1 hrest, or_iff_right (hother _)]
        exact ih h.2 hdistinct

/-! ### Forms -/

/-- The items that a value lists: under the key of the list in an object, or as the only item of an
array. -/
inductive Lists (items : List Value) : Value → Prop where
  | object {members : List (String × Value)} (h : (listKey, .array items) ∈ members) :
      Lists items (.object members)
  | array : Lists items (.array [.array items])

theorem readArrayForm_of_begins (hs : BeginsItem s) (rest : List Char) :
    readArrayForm (s ++ rest) = (readList (s ++ rest)).bind fun (components, after) =>
      match skipSpaces after with
      | [] => .error .ended
      | ']' :: after => .ok (⟨components⟩, after)
      | _ => .error .malformed := by
  obtain ⟨c, more, rfl, hspace, hclosing, -⟩ := hs
  rw [List.cons_append, readArrayForm, skipSpaces_cons hspace]
  split
  · next heq => cases heq
  · next heq => exact absurd (List.cons.inj heq).1 hclosing
  · next heq =>
      cases heq
      rfl

theorem readArrayForm_itemsChars_iff {items : List Value}
    (h : ∀ item ∈ items, Readable (valueDepth + 2) item) :
    readArrayForm (Value.itemsChars items) = .ok (curriculum, after) ↔
      items = [.array (curriculum.components.map Component.toValue)] ∧ after = [] := by
  cases items with
  | nil =>
      constructor
      · intro hread
        cases hread
      · intro hitems
        cases hitems.1
  | cons item items =>
      rw [List.forall_mem_cons] at h
      have hrest := endsNumeral_nextItemsChars items []
      rw [List.append_nil] at hrest
      rw [Value.itemsChars, readArrayForm_of_begins h.1.reads.begins]
      constructor
      · intro hread
        obtain ⟨⟨components, left⟩, hlist, hclose⟩ := bind_eq_ok_iff.1 hread
        obtain ⟨rfl, rfl⟩ := (readList_chars_iff h.1 hrest).1 hlist
        cases items with
        | nil =>
            cases hclose
            exact ⟨rfl, rfl⟩
        | cons => cases hclose
      · intro hlist
        obtain ⟨hitems, hafter⟩ := hlist
        obtain ⟨hitem, rfl⟩ := List.cons.inj hitems
        rw [(readList_chars_iff h.1 hrest).2 ⟨hitem, rfl⟩, hafter]
        rfl

theorem read_of_scalar {c : Char} (hspace : isSpace c = false) (hbracket : c ≠ '[')
    (hbrace : c ≠ '\x7b') (s : List Char) :
    read (c :: s) = .error (refusal answerShape (c :: s)) := by
  rw [read, skipSpaces_cons hspace]
  dsimp only
  split
  · next heq => cases heq
  · next heq => exact absurd (List.cons.inj heq).1 hbracket
  · next heq => exact absurd (List.cons.inj heq).1 hbrace
  · next heq =>
      cases heq
      rfl

/-- Nothing may stand behind either form. -/
theorem bind_closed_iff {form : Except Failure (Curriculum × List Char)} :
    (form.bind fun (curriculum, rest) =>
        if skipSpaces rest = [] then .ok curriculum else .error .malformed) = .ok curriculum ↔
      ∃ rest, form = .ok (curriculum, rest) ∧ skipSpaces rest = [] := by
  constructor
  · intro hread
    obtain ⟨⟨found, rest⟩, hform, hclosed⟩ := bind_eq_ok_iff.1 hread
    dsimp only at hclosed
    split at hclosed
    · next hend =>
        cases hclosed
        exact ⟨rest, hform, hend⟩
    · cases hclosed
  · intro hclosed
    obtain ⟨rest, hform, hend⟩ := hclosed
    rw [hform]
    exact if_pos hend

/-- The text of a value is read as the curriculum exactly if the value lists its components. -/
theorem read_chars_iff (h : Readable maxDepth v) :
    read v.chars = .ok curriculum ↔ Lists (curriculum.components.map Component.toValue) v := by
  have hscalar : ∀ {c more}, v.chars = c :: more → isSpace c = false → c ≠ '[' → c ≠ '\x7b' →
      read v.chars ≠ .ok curriculum := by
    intro c more hchars hspace hbracket hbrace
    rw [hchars, read_of_scalar hspace hbracket hbrace]
    exact nofun
  cases v with
  | null => exact iff_of_false (hscalar rfl (by decide) (by decide) (by decide)) nofun
  | bool b =>
      refine iff_of_false ?_ nofun
      cases b <;> exact hscalar rfl (by decide) (by decide) (by decide)
  | number n =>
      obtain ⟨c, more, hchars, hc⟩ := exists_cons_of_readNumber (readNumber_chars h.readsBack)
      refine iff_of_false (hscalar hchars (isSpace_of_begins_number hc) ?_ ?_) nofun
      · exact ne_of_begins_number hc (by decide)
      · exact ne_of_begins_number hc (by decide)
  | text s => exact iff_of_false (hscalar rfl (by decide) (by decide) (by decide)) nofun
  | array items =>
      have hitems : ∀ item ∈ items, Readable (valueDepth + 2) item := h.item
      show (readArrayForm (Value.itemsChars items)).bind _ = _ ↔ _
      rw [bind_closed_iff]
      constructor
      · intro hread
        obtain ⟨rest, hform, _⟩ := hread
        obtain ⟨rfl, -⟩ := (readArrayForm_itemsChars_iff hitems).1 hform
        exact .array
      · intro hlists
        cases hlists
        exact ⟨[], (readArrayForm_itemsChars_iff hitems).2 ⟨rfl, rfl⟩, rfl⟩
  | object members =>
      have hmembers : ∀ member ∈ members, Readable (valueDepth + 2) member.2 := h.member
      have hform := readObjectForm_membersChars members []
      rw [List.append_nil] at hform
      show (readObjectForm (Value.membersChars members)).bind _ = _ ↔ _
      rw [hform, bind_closed_iff]
      constructor
      · intro hobject
        obtain ⟨rest, hread, _⟩ := hobject
        exact .object ((readNextMembers_none_iff hmembers h.distinct).1 hread).1
      · intro hlists
        cases hlists with
        | object hmember =>
            exact ⟨[], (readNextMembers_none_iff hmembers h.distinct).2 ⟨hmember, rfl⟩, rfl⟩

/-- Of a value without doubled keys, an object that is listed is a component. -/
theorem exists_components {items : List Value} (h : ∀ item ∈ items, item.WellKeyed)
    (hobjects : ∀ item ∈ items, ∃ members, item = .object members) :
    ∃ components : List Component, items = components.map Component.toValue := by
  induction items with
  | nil => exact ⟨[], rfl⟩
  | cons item items ih =>
      rw [List.forall_mem_cons] at h hobjects
      obtain ⟨components, rfl⟩ := ih h.2 hobjects.2
      obtain ⟨members, rfl⟩ := hobjects.1
      cases h.1 with
      | object hdistinct _ => exact ⟨⟨members, hdistinct⟩ :: components, rfl⟩

theorem Lists.wellKeyed {items : List Value} (h : Lists items v) (hv : v.WellKeyed) :
    ∀ item ∈ items, item.WellKeyed := by
  have hlist : (Value.array items).WellKeyed := by
    cases h with
    | object hmember =>
        cases hv with
        | object _ hkeys => exact hkeys _ hmember
    | array =>
        cases hv with
        | array hkeys => exact hkeys _ List.mem_cons_self
  cases hlist with
  | array hkeys => exact hkeys

end Curriculum

open Curriculum in
/-- The compact text of a value is an answer exactly if the value lists objects and nothing else,
and the curriculum that is read has exactly these as its components. -/
theorem ofBody_compact {v : Value} (hkeys : v.WellKeyed) (hdepth : v.depth ≤ maxDepth)
    (hdoubles : ∀ x, v.Holds x → ReadsBack x) :
    ((∃ curriculum, ofBody v.compact = .ok curriculum) ↔
        ∃ items, Lists items v ∧ ∀ item ∈ items, ∃ members, item = .object members) ∧
      ∀ curriculum, ofBody v.compact = .ok curriculum ↔
        Lists (curriculum.components.map Component.toValue) v := by
  have hread : ∀ curriculum, ofBody v.compact = .ok curriculum ↔
      Lists (curriculum.components.map Component.toValue) v := by
    intro curriculum
    rw [ofBody, Value.compact, String.toList_ofList]
    exact read_chars_iff ⟨hkeys, hdepth, hdoubles⟩
  refine ⟨⟨?_, ?_⟩, hread⟩
  · intro hread
    obtain ⟨curriculum, hok⟩ := hread
    refine ⟨_, (hread curriculum).1 hok, fun item hitem => ?_⟩
    obtain ⟨c, -, rfl⟩ := List.mem_map.1 hitem
    exact ⟨c.members, rfl⟩
  · intro hshape
    obtain ⟨items, hlists, hobjects⟩ := hshape
    obtain ⟨components, rfl⟩ := exists_components (hlists.wellKeyed hkeys) hobjects
    exact ⟨⟨components⟩, (hread _).2 hlists⟩

/-- A component without a grade. -/
private def seminar : Component where
  members := [("nome", .text "Seminário \"A\""), ("media", .null)]
  distinct := by decide

/-- An answer with a member before the list and one behind it. -/
private def transcript : Value :=
  .object [("cra", .array [.number (.double ⟨false, 0x13000000000000, -49⟩), .object []]),
    (Curriculum.listKey, .array [seminar.toValue]), ("erro", .text "]\x7d")]

private theorem wellKeyed_transcript : transcript.WellKeyed := by
  refine .object (by decide) fun member hmember => ?_
  rcases List.mem_cons.1 hmember with rfl | hmember
  · refine .array fun item hitem => ?_
    rcases List.mem_cons.1 hitem with rfl | hitem
    · exact .number _
    · cases List.mem_singleton.1 hitem
      exact .object (by decide) nofun
  · rcases List.mem_cons.1 hmember with rfl | hmember
    · refine .array fun item hitem => ?_
      cases List.mem_singleton.1 hitem
      refine .object seminar.distinct fun member hmember => ?_
      rcases List.mem_cons.1 hmember with rfl | hmember
      · exact .text _
      · cases List.mem_singleton.1 hmember
        exact .null
    · cases List.mem_singleton.1 hmember
      exact .text _

private theorem readsBack_of_holds_transcript {x : Decimal.Binary64} (h : transcript.Holds x) :
    ReadsBack x := by
  cases h with
  | object hmember h =>
      rcases List.mem_cons.1 hmember with rfl | hmember
      · cases h with
        | array hitem h =>
            rcases List.mem_cons.1 hitem with rfl | hitem
            · cases h
              exact readsBack_of_toOption (by decide +kernel)
            · cases List.mem_singleton.1 hitem
              cases h with
              | object hmember _ => cases hmember
      · rcases List.mem_cons.1 hmember with rfl | hmember
        · cases h with
          | array hitem h =>
              cases List.mem_singleton.1 hitem
              cases h with
              | object hmember h =>
                  rcases List.mem_cons.1 hmember with rfl | hmember
                  · cases h
                  · cases List.mem_singleton.1 hmember
                    cases h
        · cases List.mem_singleton.1 hmember
          cases h

open Curriculum in
theorem ofBody_compact_transcript :
    transcript.WellKeyed ∧ transcript.depth ≤ maxDepth ∧
      (∀ x, transcript.Holds x → ReadsBack x) ∧
      ofBody transcript.compact = .ok ⟨[seminar]⟩ := by
  have hdepth : transcript.depth ≤ maxDepth := by decide
  have hlists : Lists [seminar.toValue] transcript :=
    .object (List.mem_cons_of_mem _ List.mem_cons_self)
  have hread := ofBody_compact wellKeyed_transcript hdepth fun _ => readsBack_of_holds_transcript
  exact ⟨wellKeyed_transcript, hdepth, fun _ => readsBack_of_holds_transcript,
    (hread.2 ⟨[seminar]⟩).2 hlists⟩

end DegreeAudit
