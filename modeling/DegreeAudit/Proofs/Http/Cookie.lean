import DegreeAudit.Http.Cookie
import DegreeAudit.Proofs.Url.Reader
import Mathlib.Data.List.Basic
import Mathlib.Data.List.TakeWhile

/-!
# Cookies of one name

What an answer does to the cookies of one name. A header that names another cookie leaves them as
they are (`named_take_of_not_names`). A header of the plain form, a name and a value and the whole
host as its path, puts a cookie into the jar that never ends and belongs to its host alone
(`ofHeader?_plain`, `named_take_of_plain`); that cookie fits every address of the web on the host
and no other (`fits_plain`). What is sent under the name is what the jar holds under it
(`filter_sentTo`).
-/

namespace DegreeAudit.Http

namespace Cookie

variable {name value text domain : String} {url : Url} {host : Url.Host} {now : Instant}

/-! ### What a header names -/

/-- The header asks for a cookie of the name, or would if it were well formed. -/
def Names (name text : String) : Prop :=
  ∃ pair attributes value,
    text.toList.splitOn ';' = pair :: attributes ∧ splitPair pair = (name, some value)

theorem names_of_ofHeader? {c : Cookie} (h : ofHeader? url now text = some c) :
    Names c.name text := by
  unfold ofHeader? at h
  split at h
  next pair attributes host hsplit hhost =>
    split at h
    next name value hpair =>
      dsimp only at h
      split at h
      · cases h
      · cases h
        exact ⟨pair, attributes, value, hsplit, hpair⟩
    next => cases h
  next => cases h

/-! ### Headers of the plain form -/

/-- The text has a character, and none that could be read as a part of the header around it. -/
def IsWord (s : String) : Prop :=
  s ≠ "" ∧ ∀ c ∈ s.toList, c ≠ ';' ∧ c ≠ '=' ∧ Text.isBlank c = false

theorem isWord_of_isAlphanum {s : String} (hne : s ≠ "")
    (h : s.toList.all Char.isAlphanum = true) : IsWord s := by
  refine ⟨hne, fun c hc => ?_⟩
  have halnum := List.all_eq_true.1 h c hc
  have hcases : (48 ≤ c.toNat ∧ c.toNat ≤ 57) ∨ (65 ≤ c.toNat ∧ c.toNat ≤ 90) ∨
      (97 ≤ c.toNat ∧ c.toNat ≤ 122) := by
    change ((c.isUpper || c.isLower) || c.isDigit) = true at halnum
    rw [Bool.or_eq_true, Bool.or_eq_true] at halnum
    rcases halnum with (hupper | hlower) | hdigit
    · have hrange : 65 ≤ c.toNat ∧ c.toNat ≤ 90 := of_decide_eq_true hupper
      exact .inr (.inl hrange)
    · obtain ⟨hleast, hmost⟩ := Bool.and_eq_true_iff.1 hlower
      exact .inr (.inr ⟨of_decide_eq_true hleast, of_decide_eq_true hmost⟩)
    · obtain ⟨hleast, hmost⟩ := Bool.and_eq_true_iff.1 hdigit
      exact .inl ⟨of_decide_eq_true hleast, of_decide_eq_true hmost⟩
  refine ⟨?_, ?_, ?_⟩
  · rintro rfl
    revert hcases
    decide
  · rintro rfl
    revert hcases
    decide
  · simp only [Text.isBlank, Bool.or_eq_false_iff, Bool.and_eq_false_iff, decide_eq_false_iff_not,
      beq_eq_false_iff_ne]
    omega

theorem trimmed_of_isWord {s : String} (h : IsWord s) : trimmed s.toList = s := by
  have hblank : ∀ l : List Char, (∀ c ∈ l, Text.isBlank c = false) →
      l.dropWhile Text.isBlank = l := by
    intro l hl
    rw [List.dropWhile_eq_self_iff]
    intro hlength
    simp [hl _ (List.getElem_mem hlength)]
  have hs : ∀ c ∈ s.toList, Text.isBlank c = false := fun c hc => (h.2 c hc).2.2
  unfold trimmed Text.trim Text.trimLeft Text.trimRight
  rw [hblank _ hs, hblank _ fun c hc => hs c (List.mem_reverse.1 hc), List.reverse_reverse,
    String.ofList_toList]

theorem splitPair_of_isWord (hname : IsWord name) (hvalue : IsWord value) :
    splitPair (name.toList ++ '=' :: value.toList) = (name, some value) := by
  have hother : ∀ c ∈ name.toList, (c != '=') = true := by
    intro c hc
    simp [(hname.2 c hc).2.1]
  unfold splitPair
  rw [List.dropWhile_append_of_pos hother, List.takeWhile_append_of_pos hother]
  simp [trimmed_of_isWord hname, trimmed_of_isWord hvalue]

def plainHeader (name value : String) : String := name ++ "=" ++ value ++ "; Path=/"

/-- The cookie for all paths of one host, and for as long as the session lasts. -/
def plain (name value domain : String) : Cookie :=
  { name, value, domain, hostOnly := true, path := "/", secure := false, expires := none }

theorem splitOn_plainHeader (hname : IsWord name) (hvalue : IsWord value) :
    (plainHeader name value).toList.splitOn ';' =
      [name.toList ++ '=' :: value.toList, " Path=/".toList] := by
  have htext : (plainHeader name value).toList =
      (name.toList ++ '=' :: value.toList) ++ ';' :: " Path=/".toList := by
    simp [plainHeader]
  have hfree : ∀ c ∈ name.toList ++ '=' :: value.toList, (c == ';') = false := by
    intro c hc
    rw [List.mem_append, List.mem_cons] at hc
    rcases hc with hc | rfl | hc
    · simp [(hname.2 c hc).1]
    · rfl
    · simp [(hvalue.2 c hc).1]
  rw [htext, List.splitOn, List.splitOnP_append_cons_of_forall_mem hfree ';' rfl]
  rfl

/-- A header of the plain form is granted. -/
theorem ofHeader?_plain (hname : IsWord name) (hvalue : IsWord value)
    (hhost : url.host? = some host) (now : Instant) :
    ofHeader? url now (plainHeader name value) = some (plain name value host.toText) := by
  have hattributes : [" Path=/".toList].foldl Attributes.add ⟨none, none, false, none, none⟩ =
      ⟨none, some "/", false, none, none⟩ := by
    have hpair : splitPair " Path=/".toList = ("Path", some "/") := by decide +kernel
    have hkey : "Path".toLower = "path" := by decide +kernel
    rw [List.foldl_cons, List.foldl_nil]
    unfold Attributes.add
    rw [hpair]
    dsimp only
    rw [hkey]
    rfl
  unfold ofHeader?
  rw [splitOn_plainHeader hname hvalue, hhost]
  dsimp only
  rw [splitPair_of_isWord hname hvalue]
  dsimp only
  rw [hattributes]
  have hpath : (some "/").filter (fun path : String => path.toList.head? == some '/') =
      some "/" := rfl
  simp [plain, hname.1, hpath]

/-- A path that begins with a slash lies under the root. -/
theorem inPath_root {path : Url.Path} (h : ∃ segment rest, path = .segments (segment :: rest)) :
    inPath path.toText "/" = true := by
  obtain ⟨segment, rest, rfl⟩ := h
  simp [inPath, Url.Path.toText]

/-- A plain cookie fits the addresses of the web on its host and no others. -/
theorem fits_plain (hroot : url.HasRoot) (hweb : Url.isSpecialScheme url.scheme = true) :
    (plain name value domain).fits url now =
      (url.host?.map Url.Host.toText == some domain) := by
  unfold fits plain isExpired
  rw [inPath_root (hroot hweb)]
  cases url.host? <;> simp

end Cookie

namespace Jar

variable {jar : Jar} {name value : String} {url : Url} {host : Url.Host} {now : Instant}
  {texts earlier later : List String}

def named (jar : Jar) (name : String) : List Cookie := jar.cookies.filter (·.name == name)

theorem named_put_of_ne {c : Cookie} (h : c.name ≠ name) (now : Instant) :
    (jar.put c now).named name = jar.named name := by
  have hothers : (jar.cookies.filter (!c.sameSlot ·)).filter (·.name == name) =
      jar.cookies.filter (·.name == name) := by
    rw [List.filter_filter]
    refine List.filter_congr fun d _ => ?_
    by_cases hname : d.name = name
    · have hslot : c.sameSlot d = false := by
        simp [Cookie.sameSlot, hname, h]
      simp [hname, hslot]
    · simp [hname]
  unfold put named
  dsimp only
  split
  · exact hothers
  · rw [List.filter_append, hothers]
    simp [h]

theorem named_put_of_named_eq_nil {c : Cookie} (h : jar.named c.name = [])
    (hlasting : c.isExpired now = false) : (jar.put c now).named c.name = [c] := by
  have hothers : (jar.cookies.filter (!c.sameSlot ·)).filter (·.name == c.name) = [] := by
    rw [List.filter_comm]
    unfold named at h
    rw [h, List.filter_nil]
  unfold put named
  rw [hlasting]
  dsimp only
  rw [if_neg Bool.false_ne_true, List.filter_append, hothers]
  simp

theorem take_append (jar : Jar) (url : Url) (now : Instant) (earlier later : List String) :
    jar.take url now (earlier ++ later) = (jar.take url now earlier).take url now later := by
  unfold take
  rw [List.filterMap_append, List.foldl_append]

theorem named_take_of_not_names (h : ∀ text ∈ texts, ¬ Cookie.Names name text) :
    (jar.take url now texts).named name = jar.named name := by
  induction texts generalizing jar with
  | nil => rfl
  | cons text rest ih =>
      have hrest : ∀ text ∈ rest, ¬ Cookie.Names name text :=
        fun text htext => h text (List.mem_cons_of_mem _ htext)
      cases hheader : Cookie.ofHeader? url now text with
      | none =>
          have htake : jar.take url now (text :: rest) = jar.take url now rest := by
            unfold take
            rw [List.filterMap_cons_none hheader]
          rw [htake, ih hrest]
      | some c =>
          have htake : jar.take url now (text :: rest) = (jar.put c now).take url now rest := by
            unfold take
            rw [List.filterMap_cons_some hheader, List.foldl_cons]
          have hname : c.name ≠ name := by
            rintro rfl
            exact h text List.mem_cons_self (Cookie.names_of_ofHeader? hheader)
          rw [htake, ih hrest, named_put_of_ne hname]

/-- A plain header among headers that do not name its cookie puts that cookie into the jar. -/
theorem named_take_of_plain (hjar : jar.named name = []) (hname : Cookie.IsWord name)
    (hvalue : Cookie.IsWord value) (hhost : url.host? = some host)
    (hearlier : ∀ text ∈ earlier, ¬ Cookie.Names name text)
    (hlater : ∀ text ∈ later, ¬ Cookie.Names name text) :
    (jar.take url now (earlier ++ Cookie.plainHeader name value :: later)).named name =
      [Cookie.plain name value host.toText] := by
  have hstep (jar : Jar) : jar.take url now [Cookie.plainHeader name value] =
      jar.put (Cookie.plain name value host.toText) now := by
    unfold take
    rw [List.filterMap_cons_some (Cookie.ofHeader?_plain hname hvalue hhost now)]
    rfl
  rw [← List.singleton_append, take_append, take_append, hstep, named_take_of_not_names hlater]
  refine named_put_of_named_eq_nil ?_ rfl
  show (jar.take url now earlier).named name = []
  rw [named_take_of_not_names hearlier, hjar]

/-- What is sent under a name is what the jar holds under it and fits. -/
theorem filter_sentTo (jar : Jar) (url : Url) (now : Instant) (name : String) :
    (jar.sentTo url now).filter (·.1 == name) =
      ((jar.named name).filter (·.fits url now)).map fun c => (c.name, c.value) := by
  unfold sentTo named
  rw [List.filter_map, List.filter_comm]
  rfl

end Jar

end DegreeAudit.Http
