import DegreeAudit.Portal.Refusal
import DegreeAudit.Proofs.Text.Quoted

/-!
# What a refusal's message tells

A message is a sentence around texts that come from elsewhere: the wanted affiliation from the
settings, the offered ones from a page. No such text can break the line or end its quotes, so the
message has only visible characters (`isShown_message`) and tells the refusal apart from every other
one (`message_injective`). Of an affiliation that is not offered, the message tells the wanted text
and the offered texts one by one: `message_unknownAffiliation_unforgeable`.
-/

namespace DegreeAudit

open Text

theorem RequiredField.key_injective : Function.Injective key := by
  intro field other h
  cases field with
  | status =>
      cases other with
      | status => rfl
      | name => exact absurd h (by decide)
  | name =>
      cases other with
      | status => exact absurd h (by decide)
      | name => rfl

namespace Refusal

/-! ### The parts of a message -/

private theorem toList_unknownAffiliation (wanted : String) (available : List String) :
    (unknownAffiliation wanted available).message.toList
      = "affiliation ".toList ++ ((quote wanted).toList
          ++ (" is not offered by the portal (available: ".toList
            ++ ((quoteList available).toList ++ ")".toList))) := by
  change ("affiliation " ++ quote wanted ++ " is not offered by the portal (available: "
    ++ quoteList available ++ ")").toList = _
  simp only [String.toList_append, List.append_assoc]

private theorem toList_missingField (index : Nat) (field : RequiredField) :
    (missingField ⟨index, field⟩).message.toList
      = "component #".toList ++ (Nat.toDigits 10 index
          ++ ' ' :: ("has no ".toList ++ ((quote field.key).toList ++ " field".toList))) := by
  have hspace : " has no ".toList = ' ' :: "has no ".toList := rfl
  change ("component #" ++ toString index ++ " has no " ++ quote field.key ++ " field").toList = _
  simp only [String.toList_append, List.append_assoc, hspace, List.cons_append,
    Nat.toString_eq_repr, Nat.toList_repr]

/-! ### Visible characters -/

/-- Whatever a page says, no character of a message is hidden. -/
theorem isShown_message (r : Refusal) : IsShown r.message.toList := by
  cases r with
  | loginRejected => decide
  | unknownAffiliation wanted available =>
      rw [toList_unknownAffiliation]
      simp only [isShown_append]
      exact ⟨by decide, isShown_quote wanted, by decide, isShown_quoteList available, by decide⟩
  | missingField missing =>
      obtain ⟨index, field⟩ := missing
      rw [toList_missingField]
      simp only [isShown_append, isShown_cons]
      exact ⟨by decide, isShown_toDigits (by decide) (by decide) index, by decide, by decide,
        isShown_quote field.key, by decide⟩

/-! ### Different refusals -/

/-- A number ends where a space follows it. -/
private theorem toDigits_append_inj {m n : Nat} {rest more : List Char}
    (h : Nat.toDigits 10 m ++ ' ' :: rest = Nat.toDigits 10 n ++ ' ' :: more) :
    m = n ∧ rest = more := by
  have htake : ∀ (k : Nat) (behind : List Char),
      (Nat.toDigits 10 k ++ ' ' :: behind).takeWhile Char.isDigit = Nat.toDigits 10 k := by
    intro k behind
    rw [List.takeWhile_append_of_pos fun c hc =>
        Nat.isDigit_of_mem_toDigits (by decide) (by decide) hc,
      List.takeWhile_cons_of_neg (by decide), List.append_nil]
  have hdigits : Nat.toDigits 10 m = Nat.toDigits 10 n := by
    rw [← htake m rest, h, htake]
  constructor
  · rw [← Nat.ofDigitChars_ten_toDigits (n := m), hdigits, Nat.ofDigitChars_ten_toDigits]
  · rw [hdigits] at h
    exact (List.cons.inj (List.append_cancel_left h)).2

theorem unknownAffiliation_of_message_eq {wanted other : String} {available others : List String}
    (h : (unknownAffiliation wanted available).message
      = (unknownAffiliation other others).message) : wanted = other ∧ available = others := by
  have hchars := congrArg String.toList h
  rw [toList_unknownAffiliation, toList_unknownAffiliation] at hchars
  obtain ⟨hwanted, hbehind⟩ := quote_append_inj (List.append_cancel_left hchars)
  obtain ⟨havailable, -⟩ := quoteList_append_inj (List.append_cancel_left hbehind)
  exact ⟨hwanted, havailable⟩

theorem missingField_of_message_eq {missing other : MissingField}
    (h : (missingField missing).message = (missingField other).message) : missing = other := by
  obtain ⟨index, field⟩ := missing
  obtain ⟨otherIndex, otherField⟩ := other
  have hchars := congrArg String.toList h
  rw [toList_missingField, toList_missingField] at hchars
  obtain ⟨rfl, hbehind⟩ := toDigits_append_inj (List.append_cancel_left hchars)
  obtain ⟨hkey, -⟩ := quote_append_inj (List.append_cancel_left hbehind)
  rw [RequiredField.key_injective hkey]

private def initial : Refusal → Char
  | loginRejected => 'l'
  | unknownAffiliation _ _ => 'a'
  | missingField _ => 'c'

private theorem head?_message (r : Refusal) : r.message.toList.head? = some r.initial := by
  cases r with
  | loginRejected => rfl
  | unknownAffiliation wanted available =>
      rw [toList_unknownAffiliation]
      rfl
  | missingField missing =>
      rw [toList_missingField missing.index missing.field]
      rfl

/-- Different refusals have different messages. -/
theorem message_injective : Function.Injective message := by
  intro r s h
  have hinitial : r.initial = s.initial := by
    apply Option.some.inj
    rw [← head?_message, h, head?_message]
  cases r with
  | loginRejected =>
      cases s with
      | loginRejected => rfl
      | unknownAffiliation => simp [initial] at hinitial
      | missingField => simp [initial] at hinitial
  | unknownAffiliation wanted available =>
      cases s with
      | loginRejected => simp [initial] at hinitial
      | unknownAffiliation other others =>
          obtain ⟨rfl, rfl⟩ := unknownAffiliation_of_message_eq h
          rfl
      | missingField => simp [initial] at hinitial
  | missingField missing =>
      cases s with
      | loginRejected => simp [initial] at hinitial
      | unknownAffiliation => simp [initial] at hinitial
      | missingField other => exact congrArg missingField (missingField_of_message_eq h)

/-! ### Affiliations that are not offered -/

/-- The message about an affiliation that is not offered stays on its line and tells the wanted text
and the offered ones, whatever stands in them. -/
theorem message_unknownAffiliation_unforgeable (wanted : String) (available : List String) :
    (∀ c ∈ (unknownAffiliation wanted available).message.toList, 0x20 ≤ c.toNat) ∧
      ∀ other others, (unknownAffiliation wanted available).message
          = (unknownAffiliation other others).message ↔ wanted = other ∧ available = others := by
  refine ⟨fun c hc => le_toNat_of_isHidden (isShown_message _ c hc), fun other others => ?_⟩
  constructor
  · intro h
    exact unknownAffiliation.inj (message_injective h)
  · rintro ⟨rfl, rfl⟩
    rfl

/-- One offered text that looks like two, and one that looks like a line of its own, against the
offers that they imitate. -/
theorem message_unknownAffiliation_unforgeable_of_imitations :
    let imitating := unknownAffiliation "3" ["1\", \"2", "4)\nlogin rejected"]
    let imitated := unknownAffiliation "3" ["1", "2", "4)\\nlogin rejected"]
    'n' ∈ imitating.message.toList ∧ 0x20 ≤ 'n'.toNat ∧ imitating.message ≠ imitated.message := by
  intro imitating imitated
  obtain ⟨hshown, hequal⟩ := message_unknownAffiliation_unforgeable "3"
    ["1\", \"2", "4)\nlogin rejected"]
  have hmem : 'n' ∈ imitating.message.toList := by decide
  refine ⟨hmem, hshown 'n' hmem, fun h => ?_⟩
  have hoffers := ((hequal "3" ["1", "2", "4)\\nlogin rejected"]).1 h).2
  exact absurd hoffers (by decide)

end Refusal

end DegreeAudit
