import DegreeAudit.Proofs.Json.Numeral
import DegreeAudit.Proofs.Json.QuotedText
import DegreeAudit.Proofs.Json.Reader

/-!
# Reading back what was printed

`reads_chars`: the compact text of a value is read as that value, in front of any text that does not
go on with a numeral, as long as there is room for the value and no key stands twice in it. Of
doubles it is assumed that each is read back from its own digits; everything else is proved.

Items and members are treated for a reader that is known to read each of them back; the values then
follow by induction on the room, since whatever stands inside a value has one place less.
-/

namespace DegreeAudit.Json

/-- The double is read back from its digits. -/
def ReadsBack (x : Decimal.Binary64) : Prop :=
  readNumber (doubleChars x) = .ok (.double x, [])

theorem readsBack_of_toOption {x : Decimal.Binary64}
    (h : (readNumber (doubleChars x)).toOption = some (.double x, [])) : ReadsBack x := by
  unfold ReadsBack
  cases hread : readNumber (doubleChars x) with
  | error failure =>
      rw [hread] at h
      cases h
  | ok found =>
      rw [hread] at h
      cases h
      rfl

inductive Value.Holds (x : Decimal.Binary64) : Value → Prop where
  | number : Holds x (number (.double x))
  | array {items : List Value} {item : Value} (hitem : item ∈ items) (h : Holds x item) :
      Holds x (array items)
  | object {members : List (String × Value)} {member : String × Value} (hmember : member ∈ members)
      (h : Holds x member.2) : Holds x (object members)

/-- A text that a list can go on with: it begins with neither a space nor a closing bracket. -/
def BeginsItem (s : List Char) : Prop :=
  ∃ c more, s = c :: more ∧ isSpace c = false ∧ c ≠ ']' ∧ c ≠ '\x7d'

/-- The reader takes a value off a text in front of anything that does not go on with a numeral. -/
structure Reader.Reads {α : Type} (reader : Reader α) (s : List Char) (a : α) : Prop where
  begins : BeginsItem s
  run : ∀ {rest}, EndsNumeral rest → reader.run (s ++ rest) = .ok (a, rest)

theorem skipSpaces_cons {c : Char} (h : isSpace c = false) (s : List Char) :
    skipSpaces (c :: s) = c :: s :=
  List.dropWhile_cons_of_neg (by simp [h])

theorem endsNumeral_nextItemsChars (items : List Value) (rest : List Char) :
    EndsNumeral (Value.nextItemsChars items ++ rest) := by
  cases items with
  | nil => exact endsNumeral_cons (by decide)
  | cons item items => exact endsNumeral_cons (by decide)

theorem endsNumeral_nextMembersChars (members : List (String × Value)) (rest : List Char) :
    EndsNumeral (Value.nextMembersChars members ++ rest) := by
  cases members with
  | nil => exact endsNumeral_cons (by decide)
  | cons member members => exact endsNumeral_cons (by decide)

/-- The first character of a number is none that begins anything else. -/
theorem ne_of_begins_number {c d : Char} (hc : c = '-' ∨ c.isDigit = true)
    (hd : d ≠ '-' ∧ d.isDigit = false) : c ≠ d := by
  rintro rfl
  rcases hc with hc | hc
  · exact hd.1 hc
  · rw [hc] at hd
    cases hd.2

theorem isSpace_of_begins_number {c : Char} (hc : c = '-' ∨ c.isDigit = true) :
    isSpace c = false := by
  have hne : ∀ {d}, d ≠ '-' ∧ d.isDigit = false → c ≠ d := ne_of_begins_number hc
  have hspace : c ≠ ' ' := hne (by decide)
  have htab : c ≠ '\t' := hne (by decide)
  have hfeed : c ≠ '\n' := hne (by decide)
  have hreturn : c ≠ '\r' := hne (by decide)
  simp [isSpace, hspace, htab, hfeed, hreturn]

/-- A number is read back from its text if it is a whole number, or a double that is. -/
theorem readNumber_chars {n : Number} (h : ∀ x, (Value.number n).Holds x → ReadsBack x) :
    readNumber n.chars = .ok (n, []) := by
  cases n with
  | integer n fits => exact readNumber_decimalChars n fits
  | double x => exact h x .number

namespace Reader

/-! ### Items -/

section

variable {α : Type} {reader : Reader α} {toValue : α → Value}

theorem nextItems_of_closing {read : List α} (rest : List Char) :
    reader.nextItems read (']' :: rest) = .ok (read.reverse, rest) := by
  rw [nextItems]
  split
  · next heq => cases heq
  · next heq =>
      cases heq
      rfl

theorem nextItems_of_item {read : List α} {s after : List Char} {a : α}
    (h : reader.run s = .ok (a, after)) :
    reader.nextItems read (',' :: s) = reader.nextItems (a :: read) after := by
  rw [nextItems]
  split
  · next heq => cases heq
  · next heq =>
      cases heq
      rw [if_neg (by decide), if_pos rfl]
      split
      · next hrun =>
          rw [h] at hrun
          cases hrun
      · next hrun =>
          rw [h] at hrun
          cases hrun
          rfl

theorem nextItems_nextItemsChars {items : List α}
    (h : ∀ a ∈ items, reader.Reads (toValue a).chars a) (read : List α) (rest : List Char) :
    reader.nextItems read (Value.nextItemsChars (items.map toValue) ++ rest)
      = .ok (read.reverse ++ items, rest) := by
  induction items generalizing read with
  | nil =>
      rw [List.append_nil]
      exact nextItems_of_closing rest
  | cons a items ih =>
      rw [List.forall_mem_cons] at h
      have hrun := h.1.run (endsNumeral_nextItemsChars (items.map toValue) rest)
      rw [List.map_cons, Value.nextItemsChars, List.cons_append, List.append_assoc,
        nextItems_of_item hrun, ih h.2, List.reverse_cons, List.append_assoc,
        List.singleton_append]

/-- A reader that reads each item back reads an array of them back. -/
theorem items_itemsChars {items : List α}
    (h : ∀ a ∈ items, reader.Reads (toValue a).chars a) (rest : List Char) :
    reader.items (Value.itemsChars (items.map toValue) ++ rest) = .ok (items, rest) := by
  cases items with
  | nil => rfl
  | cons a items =>
      rw [List.forall_mem_cons] at h
      have hrun := h.1.run (endsNumeral_nextItemsChars (items.map toValue) rest)
      obtain ⟨c, more, hchars, hspace, hclosing, -⟩ := h.1.begins
      rw [List.map_cons, Value.itemsChars, List.append_assoc]
      rw [hchars, List.cons_append] at hrun ⊢
      rw [Reader.items, skipSpaces_cons hspace]
      dsimp only
      rw [if_neg hclosing, hrun]
      exact nextItems_nextItemsChars h.2 [a] rest

end

/-! ### Members -/

variable {reader : Reader Value}

theorem readName_textChars (key : String) (rest : List Char) :
    readName (textChars key ++ rest) = .ok (key, rest) := by
  obtain ⟨more, hchars, hread⟩ := exists_textChars_append key rest
  rw [hchars, readName, skipSpaces_cons (by decide)]
  exact hread

theorem readColon_cons (rest : List Char) : readColon (':' :: rest) = .ok rest := by
  rw [readColon, skipSpaces_cons (by decide)]
  rfl

theorem member_chars (key : String) {v : Value} {rest : List Char} (h : reader.Reads v.chars v)
    (hrest : EndsNumeral rest) :
    reader.member (textChars key ++ ':' :: (v.chars ++ rest)) = .ok ((key, v), rest) := by
  rw [member, readKey, readName_textChars]
  dsimp only [Except.bind]
  rw [readColon_cons]
  dsimp only [Except.map]
  rw [h.run hrest]

theorem nextMembers_of_closing {read : List (String × Value)} (rest : List Char) :
    reader.nextMembers read ('\x7d' :: rest) = .ok (read, rest) := by
  rw [nextMembers]
  split
  · next heq => cases heq
  · next heq =>
      cases heq
      rfl

theorem nextMembers_of_member {read : List (String × Value)} {s after : List Char}
    {m : String × Value} (h : reader.member s = .ok (m, after)) :
    reader.nextMembers read (',' :: s) = reader.nextMembers (put m.1 m.2 read) after := by
  rw [nextMembers]
  split
  · next heq => cases heq
  · next heq =>
      cases heq
      rw [if_neg (by decide), if_pos rfl]
      split
      · next hrun =>
          rw [h] at hrun
          cases hrun
      · next hrun =>
          rw [h] at hrun
          cases hrun
          rfl

theorem nextMembers_nextMembersChars {members : List (String × Value)}
    (h : ∀ member ∈ members, reader.Reads member.2.chars member.2) {read : List (String × Value)}
    (hdistinct : (keys (read ++ members)).Nodup) (rest : List Char) :
    reader.nextMembers read (Value.nextMembersChars members ++ rest)
      = .ok (read ++ members, rest) := by
  induction members generalizing read with
  | nil =>
      rw [List.append_nil]
      exact nextMembers_of_closing rest
  | cons member members ih =>
      obtain ⟨key, v⟩ := member
      rw [List.forall_mem_cons] at h
      have hmember := member_chars key h.1 (endsNumeral_nextMembersChars members rest)
      have hfresh : key ∉ keys read := by
        intro hmem
        rw [keys, List.map_append, List.map_cons, List.nodup_append] at hdistinct
        exact hdistinct.2.2 key hmem key List.mem_cons_self rfl
      rw [Value.nextMembersChars, List.cons_append, List.append_assoc, List.cons_append,
        List.append_assoc, nextMembers_of_member hmember, put_of_not_mem hfresh]
      rw [ih h.2, List.append_assoc, List.singleton_append]
      rwa [List.append_assoc, List.singleton_append]

/-- A reader that reads each member's value back reads an object of them back, unless a key stands
in it twice. -/
theorem members_membersChars {members : List (String × Value)}
    (h : ∀ member ∈ members, reader.Reads member.2.chars member.2)
    (hdistinct : (keys members).Nodup) (rest : List Char) :
    reader.members (Value.membersChars members ++ rest) = .ok (members, rest) := by
  cases members with
  | nil => rfl
  | cons member members =>
      obtain ⟨key, v⟩ := member
      rw [List.forall_mem_cons] at h
      have hmember := member_chars key h.1 (endsNumeral_nextMembersChars members rest)
      rw [Value.membersChars, List.append_assoc, List.cons_append, List.append_assoc]
      obtain ⟨more, hchars, -⟩ := exists_textChars_append key
        (':' :: (v.chars ++ (Value.nextMembersChars members ++ rest)))
      rw [hchars] at hmember ⊢
      rw [Reader.members, skipSpaces_cons (by decide)]
      dsimp only
      rw [if_neg (by decide), hmember]
      exact nextMembers_nextMembersChars h.2 hdistinct rest

/-! ### Values -/

variable {inner : Option (Reader Value)} {rest : List Char}

/-- A number that is read back alone is read as a value. -/
theorem runValue_numberChars {n : Number} (h : readNumber n.chars = .ok (n, []))
    (hrest : EndsNumeral rest) : runValue inner (n.chars ++ rest) = .ok (.number n, rest) := by
  have hread := readNumber_append h hrest
  obtain ⟨c, more, hchars, hc⟩ := exists_cons_of_readNumber h
  rw [hchars, List.cons_append] at hread ⊢
  unfold runValue
  rw [skipSpaces_cons (isSpace_of_begins_number hc)]
  split
  · next heq => cases heq
  -- the letters, the quote and the brackets that begin other values
  iterate 6
    · next heq => exact absurd (List.cons.inj heq).1 (ne_of_begins_number hc (by decide))
  · next heq =>
      cases heq
      rw [if_pos hc, hread]
      rfl

theorem runValue_quote (s : List Char) :
    runValue inner ('"' :: s) = (readTextRest [] s).map fun (text, s) => (.text text, s) :=
  rfl

theorem runValue_bracket (reader : Reader Value) (s : List Char) :
    runValue (some reader) ('[' :: s)
      = (reader.items s).map fun (values, s) => (.array values, s) :=
  rfl

theorem runValue_brace (reader : Reader Value) (s : List Char) :
    runValue (some reader) ('\x7b' :: s)
      = (reader.members s).map fun (values, s) => (.object values, s) :=
  rfl

theorem runValue_textChars (s : String) (rest : List Char) :
    runValue inner (textChars s ++ rest) = .ok (.text s, rest) := by
  obtain ⟨more, hchars, hread⟩ := exists_textChars_append s rest
  rw [hchars, runValue_quote, hread]
  rfl

theorem runValue_itemsChars {reader : Reader Value} {items : List Value}
    (h : ∀ item ∈ items, reader.Reads item.chars item) (rest : List Char) :
    runValue (some reader) ((Value.array items).chars ++ rest) = .ok (.array items, rest) := by
  have hitems : reader.items (Value.itemsChars (items.map id) ++ rest) = .ok (items, rest) :=
    items_itemsChars h rest
  rw [List.map_id] at hitems
  rw [Value.chars, List.cons_append, runValue_bracket, hitems]
  rfl

theorem runValue_membersChars {reader : Reader Value} {members : List (String × Value)}
    (h : ∀ member ∈ members, reader.Reads member.2.chars member.2)
    (hdistinct : (keys members).Nodup) (rest : List Char) :
    runValue (some reader) ((Value.object members).chars ++ rest)
      = .ok (.object members, rest) := by
  rw [Value.chars, List.cons_append, runValue_brace, members_membersChars h hdistinct rest]
  rfl

theorem runValue_scalar {v : Value} (hscalar : v.IsScalar)
    (hdoubles : ∀ x, v.Holds x → ReadsBack x) (hrest : EndsNumeral rest) :
    runValue inner (v.chars ++ rest) = .ok (v, rest) := by
  cases v with
  | null => rfl
  | bool b => cases b <;> rfl
  | number n => exact runValue_numberChars (readNumber_chars hdoubles) hrest
  | text s => exact runValue_textChars s rest
  | array | object => exact absurd hscalar id

theorem beginsItem_chars {v : Value} (hdoubles : ∀ x, v.Holds x → ReadsBack x) :
    BeginsItem v.chars := by
  cases v with
  | null => exact ⟨_, _, rfl, by decide⟩
  | bool b => cases b <;> exact ⟨_, _, rfl, by decide⟩
  | number n =>
      obtain ⟨c, more, hchars, hc⟩ := exists_cons_of_readNumber (readNumber_chars hdoubles)
      exact ⟨c, more, hchars, isSpace_of_begins_number hc,
        ne_of_begins_number hc (by decide), ne_of_begins_number hc (by decide)⟩
  | text s => exact ⟨_, _, rfl, by decide⟩
  | array items => exact ⟨_, _, rfl, by decide⟩
  | object members => exact ⟨_, _, rfl, by decide⟩

/-- The compact text of a value is read as the value where there is room for it. -/
theorem reads_chars (room : Nat) {v : Value} (hkeys : v.WellKeyed) (hdepth : v.depth ≤ room)
    (hdoubles : ∀ x, v.Holds x → ReadsBack x) : (value room).Reads v.chars v := by
  refine ⟨beginsItem_chars hdoubles, fun {rest} hrest => ?_⟩
  induction room generalizing v rest with
  | zero =>
      show runValue none (v.chars ++ rest) = .ok (v, rest)
      refine runValue_scalar ?_ hdoubles hrest
      cases v with
      | null | bool | number | text => trivial
      | array | object => simp [Value.depth] at hdepth
  | succ room ih =>
      have hinner : ∀ v : Value, v.WellKeyed → v.depth ≤ room → (∀ x, v.Holds x → ReadsBack x) →
          (value room).Reads v.chars v := fun v hkeys hdepth hdoubles =>
        ⟨beginsItem_chars hdoubles, ih hkeys hdepth hdoubles⟩
      show runValue (some (value room)) (v.chars ++ rest) = .ok (v, rest)
      cases hkeys with
      | null | bool | number | text => exact runValue_scalar trivial hdoubles hrest
      | @array items hkeys =>
          have hdepth := Value.depthOfItems_le_iff.1 (Nat.le_of_succ_le_succ hdepth)
          refine runValue_itemsChars (fun item hitem => ?_) rest
          exact hinner item (hkeys item hitem) (hdepth item hitem) fun x hx =>
            hdoubles x (.array hitem hx)
      | @object members hdistinct hkeys =>
          have hdepth := Value.depthOfMembers_le_iff.1 (Nat.le_of_succ_le_succ hdepth)
          refine runValue_membersChars (fun member hmember => ?_) hdistinct rest
          exact hinner member.2 (hkeys member hmember) (hdepth member hmember) fun x hx =>
            hdoubles x (.object hmember hx)

end Reader

end DegreeAudit.Json
