import DegreeAudit.Except
import DegreeAudit.Proofs.Url.Reader
import Mathlib.Data.List.DropRight

/-!
# The directory of an address

The directory of an address is the text of its path up to the last slash. Whatever is written
relative to the address takes the place of what follows that slash: `Beside` says so of a page, and
`exists_join_beside` that joining a plain name with an address of the web gives a page beside it.

What is read of a path are segments that each follow a slash and hold none (`isCut_of_ofText`),
so the last slash of the text is the one before the last segment. If a text ends with a slash and
has neither query nor fragment, that segment is empty, and the whole path is the directory
(`directory_eq_of_ofText`). For this nothing need be known of the host, except that a path is always
read from an end of the text.
-/

namespace DegreeAudit.Url

open Except (bind_eq_ok_iff map_eq_ok_iff)

def directory (url : Url) : String := String.ofList (url.path.toText.toList.rdropWhile (· != '/'))

/-- The page stands in the directory of an address, under a name that takes the place of everything
after it. -/
structure Beside (base : Url) (name : String) (page : Url) : Prop where
  scheme : page.scheme = base.scheme
  authority : page.authority = base.authority
  path : page.path.toText = base.directory ++ name
  query : page.query = none
  fragment : page.fragment = none

/-- The scheme is one of the two in which pages of the web are served. -/
def IsWeb (scheme : String) : Prop := scheme = "http" ∨ scheme = "https"

theorem IsWeb.isSpecialScheme {scheme : String} (h : IsWeb scheme) :
    isSpecialScheme scheme = true := by
  rcases h with rfl | rfl <;> decide

theorem IsWeb.ne_file {scheme : String} (h : IsWeb scheme) : scheme ≠ "file" := by
  rcases h with rfl | rfl <;> decide

/-! ### Segments hold no slash -/

theorem Percent.isAlphanum_upperHexDigit {n : Nat} (h : n < 16) :
    (upperHexDigit n).isAlphanum = true := by
  have hall : ∀ n < 16, (upperHexDigit n).isAlphanum = true := by decide
  exact hall n h

theorem Percent.eq_or_isAlphanum_of_mem_encodeByte {b : UInt8} {c : Char} (h : c ∈ encodeByte b) :
    c = '%' ∨ c.isAlphanum = true := by
  have hb : b.toNat < 256 := UInt8.toNat_lt b
  simp only [encodeByte, List.mem_cons, List.not_mem_nil, or_false] at h
  rcases h with rfl | rfl | rfl
  · exact .inl rfl
  · exact .inr (isAlphanum_upperHexDigit (by omega))
  · exact .inr (isAlphanum_upperHexDigit (by omega))

theorem Percent.slash_not_mem_encode {set : Char → Bool} {s : List Char} (h : '/' ∉ s) :
    '/' ∉ encode set s := by
  unfold encode
  intro hslash
  obtain ⟨c, hc, hslash⟩ := List.mem_flatMap.1 hslash
  split at hslash
  · obtain ⟨b, -, hslash⟩ := List.mem_flatMap.1 hslash
    rcases eq_or_isAlphanum_of_mem_encodeByte hslash with hpercent | halphanum
    · exact absurd hpercent (by decide)
    · exact absurd halphanum (by decide)
  · rw [List.mem_singleton] at hslash
    subst hslash
    exact h hc

/-- No part of a text that is cut at some characters holds any of them. -/
theorem not_of_mem_splitOnP {p : Char → Bool} {s part : List Char} (h : part ∈ s.splitOnP p) :
    ∀ c ∈ part, p c = false := by
  induction s generalizing part with
  | nil =>
      rw [List.splitOnP_nil, List.mem_singleton] at h
      subst h
      simp
  | cons c s ih =>
      rw [List.splitOnP_cons_eq_if_modifyHead] at h
      split at h
      · rcases List.mem_cons.1 h with rfl | h
        · simp
        · exact ih h
      next hc =>
        obtain ⟨first, rest, hparts⟩ := List.exists_cons_of_ne_nil (List.splitOnP_ne_nil p s)
        rw [hparts, List.modifyHead_cons] at h
        rw [hparts] at ih
        rcases List.mem_cons.1 h with rfl | h
        · simpa [hc] using ih List.mem_cons_self
        · exact ih (List.mem_cons_of_mem _ h)

def Slashless (segments : List String) : Prop := ∀ segment ∈ segments, '/' ∉ segment.toList

theorem slashless_readSegments (special : Bool) (s : List Char) :
    Slashless (readSegments special s) := by
  intro segment hsegment
  obtain ⟨part, hpart, rfl⟩ := List.mem_map.1 hsegment
  rw [String.toList_ofList]
  apply Percent.slash_not_mem_encode
  intro hslash
  simpa [isSlash] using not_of_mem_splitOnP hpart '/' hslash

/-! ### Adding segments

Outside of files no segment is a drive letter.
-/

theorem shorten_eq_dropLast (path : List String) : shorten false path = path.dropLast := by
  unfold shorten
  split <;> simp

/-- The path after one more segment, which may be the last. -/
def placed (path : List String) (segment : String) (last : Bool) : List String :=
  if isDoubleDot segment then
    if last then path.dropLast ++ [""] else path.dropLast
  else if isSingleDot segment then if last then path ++ [""] else path
  else path ++ [segment]

theorem addSegments_cons (path : List String) (segment : String) (rest : List String) :
    addSegments false path (segment :: rest)
      = addSegments false (placed path segment rest.isEmpty) rest := by
  rw [addSegments]
  simp only [shorten_eq_dropLast, Bool.false_and]
  rfl

theorem placed_of_not_dots {segment : String} (hdots : isDoubleDot segment = false)
    (hdot : isSingleDot segment = false) (path : List String) (last : Bool) :
    placed path segment last = path ++ [segment] := by
  simp [placed, hdots, hdot]

theorem Slashless.placed {path : List String} (hpath : Slashless path) {segment : String}
    (hsegment : '/' ∉ segment.toList) (last : Bool) : Slashless (placed path segment last) := by
  have hshort : Slashless path.dropLast := fun s hs => hpath s (List.dropLast_subset _ hs)
  have hadd : ∀ {path : List String} {s : String}, Slashless path → '/' ∉ s.toList →
      Slashless (path ++ [s]) := by
    intro path s hpath hs
    unfold Slashless
    rw [List.forall_mem_append, List.forall_mem_singleton]
    exact ⟨hpath, hs⟩
  unfold Url.placed
  split
  · split
    · exact hadd hshort (by simp)
    · exact hshort
  split
  · split
    · exact hadd hpath (by simp)
    · exact hpath
  · exact hadd hpath hsegment

theorem Slashless.addSegments {path segments : List String} (hpath : Slashless path)
    (hsegments : Slashless segments) : Slashless (addSegments false path segments) := by
  induction segments generalizing path with
  | nil => exact hpath
  | cons segment rest ih =>
      rw [addSegments_cons]
      apply ih
      · exact hpath.placed (hsegments _ List.mem_cons_self) _
      · exact fun s hs => hsegments s (List.mem_cons_of_mem _ hs)

theorem addSegments_of_not_dots {segments : List String}
    (h : ∀ segment ∈ segments, isDoubleDot segment = false ∧ isSingleDot segment = false)
    (path : List String) : addSegments false path segments = path ++ segments := by
  induction segments generalizing path with
  | nil => simp [addSegments]
  | cons segment rest ih =>
      obtain ⟨⟨hdots, hdot⟩, hrest⟩ := List.forall_mem_cons.1 h
      rw [addSegments_cons, placed_of_not_dots hdots hdot, ih hrest, List.append_assoc]
      rfl

/-- An empty segment that comes last is the last of the path. -/
theorem getLast?_addSegments {segments : List String} (h : segments.getLast? = some "")
    (path : List String) : (addSegments false path segments).getLast? = some "" := by
  induction segments generalizing path with
  | nil => cases h
  | cons segment rest ih =>
      rw [addSegments_cons]
      cases rest with
      | cons next rest => exact ih (by simpa using h) _
      | nil =>
          obtain rfl : segment = "" := by simpa using h
          rw [placed_of_not_dots (by decide +kernel) (by decide +kernel), addSegments]
          exact List.getLast?_concat

/-! ### Paths -/

variable {scheme : String} {authority : Option Authority} {path : List String} {s : List Char}

theorem extendPath_eq_addSegments (hscheme : IsWeb scheme) (path : List String) (s : List Char) :
    extendPath scheme path s = addSegments false path (readSegments true s) := by
  unfold extendPath
  simp only [beq_eq_false_iff_ne.2 hscheme.ne_file, hscheme.isSpecialScheme, Bool.false_eq_true,
    if_false]

/-- The text goes on to its end as a path, and has a slash there. -/
def EndsInSlash (s : List Char) : Prop := (∀ c ∈ s, endsPath c = false) ∧ ∀ c ∈ s.getLast?, c = '/'

theorem EndsInSlash.of_suffix {t : List Char} (hs : EndsInSlash s) (h : t <:+ s) :
    EndsInSlash t := by
  obtain ⟨before, rfl⟩ := h
  refine ⟨fun c hc => hs.1 c (List.mem_append_right _ hc), fun c hc => hs.2 c ?_⟩
  rw [List.getLast?_append, hc, Option.some_or]
  rfl

theorem getLast?_readSegments (h : EndsInSlash s) : (readSegments true s).getLast? = some "" := by
  unfold readSegments
  rw [List.getLast?_map]
  rcases List.eq_nil_or_concat s with rfl | ⟨before, c, rfl⟩
  · rfl
  · obtain rfl : c = '/' := h.2 c (by simp)
    rw [List.concat_eq_append, List.splitOnP_append_cons _ _ (by decide), List.splitOnP_nil,
      List.getLast?_concat]
    rfl

theorem slashless_extendPath (hscheme : IsWeb scheme) (hpath : Slashless path) (s : List Char) :
    Slashless (extendPath scheme path s) := by
  rw [extendPath_eq_addSegments hscheme]
  exact hpath.addSegments (slashless_readSegments true s)

theorem getLast?_extendPath (hscheme : IsWeb scheme) (path : List String) (h : EndsInSlash s) :
    (extendPath scheme path s).getLast? = some "" := by
  rw [extendPath_eq_addSegments hscheme]
  exact getLast?_addSegments (getLast?_readSegments h) path

theorem withPath_path (scheme : String) (authority : Option Authority) (path : List String)
    (s : List Char) : (withPath scheme authority path s).path
      = .segments (extendPath scheme path (s.takeWhile (!endsPath ·))) :=
  rfl

/-! ### Reading from the front

What follows the host is an end of the text, whatever the host is.
-/

theorem suffix_of_readPort {port : Option Nat} {rest : List Char}
    (h : readPort scheme s = .ok (port, rest)) : rest <:+ s := by
  unfold readPort at h
  split at h
  next tail =>
    dsimp only at h
    split at h
    · cases h
    split at h <;>
    · cases h
      exact (List.dropWhile_suffix _).trans (List.suffix_cons _ _)
  next =>
    cases h
    exact List.suffix_refl _

theorem suffix_of_readAuthority {a : Authority} {rest : List Char}
    (h : readAuthority scheme s = .ok (a, rest)) : rest <:+ s := by
  have hfrom : ∀ {host : List Char} {n : Nat} {port : Option Nat}, host <:+ s →
      readPort scheme (host.drop n) = .ok (port, rest) → rest <:+ s := fun hhost hport =>
    (suffix_of_readPort hport).trans ((List.drop_suffix _ _).trans hhost)
  unfold readAuthority at h
  dsimp only at h
  -- the host begins at the front or after the user, and from there on the reading is the same
  split at h
  all_goals
    split at h
    · cases h
    split at h
    · cases h
    obtain ⟨host, -, h⟩ := bind_eq_ok_iff.1 h
    split at h
    · cases h
    obtain ⟨⟨port, after⟩, hport, h⟩ := bind_eq_ok_iff.1 h
    split at h
    · cases h
    cases h
  · exact hfrom (List.suffix_refl s) hport
  · exact hfrom (List.drop_suffix _ s) hport

theorem suffix_of_splitScheme? {rest : List Char} (h : splitScheme? s = some (scheme, rest)) :
    rest <:+ s := by
  unfold splitScheme? at h
  split at h
  · split at h
    · split at h
      next hcolon =>
        cases h
        exact (List.suffix_cons ':' _).trans (hcolon ▸ List.dropWhile_suffix _)
      · cases h
    · cases h
  · cases h

variable {url : Url}

/-- After a scheme and slashes, an address is a path after a host; only one that is not of the web
may end with its host. -/
theorem exists_withPath_of_readAfterSlashes (hscheme : isSpecialScheme scheme = true)
    (h : readAfterSlashes scheme s = .ok url) :
    ∃ authority text, text <:+ s ∧ url = withPath scheme authority [] text := by
  obtain ⟨⟨a, rest⟩, hread, hurl⟩ := map_eq_ok_iff.1 h
  have hsuffix := suffix_of_readAuthority hread
  simp only [hscheme, true_or, if_true] at hurl
  split at hurl
  next c tail =>
    split at hurl
    · exact ⟨some a, tail, (List.suffix_cons _ _).trans hsuffix, hurl.symm⟩
    · exact ⟨some a, c :: tail, hsuffix, hurl.symm⟩
  next => exact ⟨some a, [], List.nil_suffix, hurl.symm⟩

theorem scheme_of_readAfterSlashes (h : readAfterSlashes scheme s = .ok url) :
    url.scheme = scheme := by
  obtain ⟨⟨a, rest⟩, -, rfl⟩ := map_eq_ok_iff.1 h
  dsimp only
  split
  · split
    · rfl
    · split <;> rfl
  · split <;> rfl

theorem scheme_of_readOther (h : readOther scheme s = .ok url) : url.scheme = scheme := by
  unfold readOther at h
  split at h
  · exact scheme_of_readAfterSlashes h
  all_goals
    cases h
    rfl

theorem scheme_of_readFile (h : readFile none s = .ok url) : url.scheme = "file" := by
  unfold readFile at h
  split at h
  · split at h
    · split at h
      · split at h
        · dsimp only at h
          split at h
          · cases h
            rfl
          · obtain ⟨host, -, rfl⟩ := map_eq_ok_iff.1 h
            rfl
        · cases h
          rfl
      · cases h
        rfl
    · cases h
      rfl
  · cases h
    rfl

/-- An address of the web that stands alone is a path after a host. -/
theorem exists_withPath_of_readWith (h : readWith none s = .ok url) (hweb : IsWeb url.scheme) :
    ∃ authority text, text <:+ s ∧ url = withPath url.scheme authority [] text := by
  unfold readWith at h
  split at h
  next scheme rest hsplit =>
    split at h
    · exact absurd (scheme_of_readFile h) hweb.ne_file
    split at h
    next hspecial =>
      dsimp only at h
      rw [scheme_of_readAfterSlashes h]
      obtain ⟨authority, text, htext, hurl⟩ := exists_withPath_of_readAfterSlashes hspecial h
      refine ⟨authority, text, htext.trans ?_, hurl⟩
      exact (List.drop_suffix _ rest).trans (suffix_of_splitScheme? hsplit)
    next hspecial =>
      rw [scheme_of_readOther h] at hweb
      exact absurd hweb.isSpecialScheme hspecial
  next => cases h

/-! ### The directory -/

/-- The path has segments, none of which holds a slash. -/
def IsCut (url : Url) : Prop :=
  ∃ front last, url.path = .segments (front ++ [last]) ∧ Slashless (front ++ [last])

theorem isCut_of_ofText {text : String} (h : ofText text = .ok url) (hweb : IsWeb url.scheme) :
    url.IsCut := by
  obtain ⟨authority, rest, -, hurl⟩ := exists_withPath_of_readWith h hweb
  have hslashless := slashless_extendPath hweb (fun _ hs => absurd hs List.not_mem_nil)
    (rest.takeWhile (!endsPath ·))
  obtain ⟨front, last, hpath⟩ := List.eq_nil_or_concat'
    (extendPath url.scheme [] (rest.takeWhile (!endsPath ·))) |>.resolve_left
      (extendPath_ne_nil _ _ _)
  rw [hpath] at hslashless
  refine ⟨front, last, ?_, hslashless⟩
  rw [← hpath, ← withPath_path url.scheme authority, ← hurl]

theorem toText_segments_append (front back : List String) :
    (Path.segments (front ++ back)).toText
      = (Path.segments front).toText ++ (Path.segments back).toText := by
  simp [Path.toText]

theorem toText_segments_singleton (segment : String) :
    (Path.segments [segment]).toText = "/" ++ segment := by
  simp [Path.toText]

/-- The last slash of a path is the one before its last segment. -/
theorem directory_eq {front : List String} {last : String}
    (hpath : url.path = .segments (front ++ [last])) (hlast : '/' ∉ last.toList) :
    url.directory = (Path.segments front).toText ++ "/" := by
  have htext : url.path.toText.toList
      = ((Path.segments front).toText.toList ++ ['/']) ++ last.toList := by
    rw [hpath, toText_segments_append, toText_segments_singleton]
    simp
  have hmarks : ∀ c ∈ last.toList.reverse, (c != '/') = true := by
    intro c hc
    rw [bne_iff_ne]
    rintro rfl
    exact hlast (List.mem_reverse.1 hc)
  rw [directory, htext, List.rdropWhile, List.reverse_append, List.dropWhile_append_of_pos hmarks,
    ← List.rdropWhile, List.rdropWhile_concat_neg _ _ _ (by decide)]
  simp

theorem endsInSlash_significant (hlast : s.getLast? = some '/')
    (hends : ∀ c ∈ s, endsPath c = false) : EndsInSlash (significant s) := by
  obtain ⟨front, rfl⟩ := List.getLast?_eq_some_iff.1 hlast
  have hfront : (front ++ ['/']).dropWhile isEdge = front.dropWhile isEdge ++ ['/'] := by
    rw [List.dropWhile_append]
    split
    next hempty =>
      rw [List.isEmpty_iff.1 hempty]
      rfl
    next => rfl
  have heq :
      significant (front ++ ['/']) = (front.dropWhile isEdge).filter (!isBreak ·) ++ ['/'] := by
    have hedge : isEdge '/' = false := by decide
    have hbreak : isBreak '/' = false := by decide
    rw [significant, hfront]
    simp [hedge, hbreak]
  rw [heq]
  constructor
  · intro c hc
    rcases List.mem_append.1 hc with hc | hc
    · have hmem := (List.dropWhile_sublist _).subset (List.mem_filter.1 hc).1
      exact hends c (List.mem_append_left _ hmem)
    · exact hends c (List.mem_append_right _ hc)
  · simp

/-- If a text without query and fragment ends with a slash, so does the path that is read. -/
theorem directory_eq_of_ofText {text : String} (h : ofText text = .ok url)
    (hweb : IsWeb url.scheme) (hlast : text.toList.getLast? = some '/')
    (hends : ∀ c ∈ text.toList, endsPath c = false) : url.directory = url.path.toText := by
  obtain ⟨authority, rest, hrest, hurl⟩ := exists_withPath_of_readWith h hweb
  have hslash := (endsInSlash_significant hlast hends).of_suffix hrest
  have hall : rest.takeWhile (!endsPath ·) = rest := by
    rw [List.takeWhile_eq_self_iff]
    exact fun c hc => by simp [hslash.1 c hc]
  obtain ⟨front, hpath⟩ := List.getLast?_eq_some_iff.1 (getLast?_extendPath hweb [] hslash)
  have hsegments : url.path = .segments (front ++ [""]) := by
    rw [hurl, withPath_path, hall, hpath]
  rw [directory_eq hsegments (by simp), hsegments, toText_segments_append,
    toText_segments_singleton]
  simp

/-! ### Joining -/

/-- Every character of the name counts, and it is neither an address nor a path from the root; its
segments are as it is written. -/
def IsPlainName (name : String) : Prop :=
  significant name.toList = name.toList ∧ splitScheme? name.toList = none ∧
    name.toList.head?.any (!isSlash true ·) ∧ name.toList.all (!endsPath ·) ∧
    (Path.segments (readSegments true name.toList)).toText = "/" ++ name ∧
    ∀ segment ∈ readSegments true name.toList, isDoubleDot segment = false ∧
      isSingleDot segment = false

instance (name : String) : Decidable (IsPlainName name) :=
  inferInstanceAs (Decidable (_ ∧ _ ∧ _ ∧ _ ∧ _ ∧ _))

variable {base : Url} {name : String}

theorem readRelative_eq_withPath (hweb : IsWeb base.scheme)
    (hhead : ∃ c ∈ s.head?, isSlash true c = false) (hends : ∀ c ∈ s, endsPath c = false) :
    readRelative base path s = .ok (withPath base.scheme base.authority path.dropLast s) := by
  unfold readRelative
  simp only [hweb.isSpecialScheme]
  split
  next =>
    obtain ⟨c, hc, -⟩ := hhead
    cases hc
  next => exact absurd (hends '?' List.mem_cons_self) (by decide)
  next => exact absurd (hends '#' List.mem_cons_self) (by decide)
  next c rest _ _ =>
    obtain ⟨c', hc', hslash⟩ := hhead
    cases hc'
    rw [if_neg (by simp [hslash])]

theorem join_eq_withPath (hweb : IsWeb base.scheme) (hname : IsPlainName name)
    (hpath : base.path = .segments path) :
    base.join name = .ok (withPath base.scheme base.authority path.dropLast name.toList) := by
  obtain ⟨hcounted, hscheme, hhead, hends, -⟩ := hname
  have hslashless : ∃ c ∈ name.toList.head?, isSlash true c = false := by
    simpa using (Option.any_eq_true _ _).1 hhead
  rw [join, hcounted, readWith, hscheme]
  simp only [hpath, hweb.ne_file, if_false]
  exact readRelative_eq_withPath hweb hslashless (by simpa using hends)

/-- A plain name joined with an address of the web is a page beside it. -/
theorem exists_join_beside (hweb : IsWeb base.scheme) (hcut : base.IsCut) (name : String)
    (hname : IsPlainName name) : ∃ page, base.join name = .ok page ∧ Beside base name page := by
  obtain ⟨front, last, hpath, hslashless⟩ := hcut
  refine ⟨_, join_eq_withPath hweb hname hpath, ?_⟩
  obtain ⟨-, -, -, hends, htext, hdots⟩ := hname
  have hall : name.toList.takeWhile (!endsPath ·) = name.toList :=
    List.takeWhile_eq_self_iff.2 (List.all_eq_true.1 hends)
  have hrest : name.toList.dropWhile (!endsPath ·) = [] :=
    List.dropWhile_eq_nil_iff.2 (List.all_eq_true.1 hends)
  have hlast : '/' ∉ last.toList := hslashless last (by simp)
  constructor
  · rfl
  · rfl
  · rw [withPath_path, hall, extendPath_eq_addSegments hweb, addSegments_of_not_dots hdots,
      toText_segments_append, htext, directory_eq hpath hlast, List.dropLast_concat,
      String.append_assoc]
  · rw [withPath, hrest]
    rfl
  · rw [withPath, hrest]
    rfl

end DegreeAudit.Url
